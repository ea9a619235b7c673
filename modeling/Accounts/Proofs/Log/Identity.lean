import Accounts.Proofs.Log.Line
import Accounts.Proofs.Log.Readable

/-!
Whether a line can be told from its record. Some members are fixed: they say what the record itself
says, and there is a report of an exception only if the record has one. An extra is kept from the
names of the record's attributes, but not from those of the fixed members.
-/
namespace Accounts.Log.Record

/-- The record with the given attributes and report. -/
def reporting (attributes : List (String × Item)) (report : Option Report) : Record :=
  { ofAttributes attributes with report := report }

def fixedNames : List String := lineNames ++ ["exception"]

/-- What the record itself says under each of them. -/
def own (r : Record) (stamp : DateTime) (message : List Nat) : Table (Except LineError Json) :=
  [("timestamp", .ok (.text (Percent.codes stamp.renderUtc))), ("level", r.level.json),
    ("logger", r.logger.json), ("message", .ok (.text message))] ++
    match r.report with
    | some report => [("exception", .ok (.text (Percent.codes report.render)))]
    | none => []

/-- The extras without the functions. -/
def shown (r : Record) : Table Item := r.extras.filter (!·.2.isCallable)

/-- The fixed members of a line that was read are what the record says itself: none is missing,
replaced or added. -/
def Tells (r : Record) (stamp : DateTime) (message : List Nat) (read : Table Json) : Prop :=
  ∀ name ∈ fixedNames,
    (read.get? name).map Except.ok = ((r.own stamp message).get? name).map (Except.map Json.joined)

/-! ## Extras -/

/-- No extra has the name of another or of an attribute. -/
structure IsApart (r : Record) : Prop where
  nodup : (Table.names r.extras).Nodup
  free : ∀ name ∈ Table.names r.extras, name ∉ reservedNames

theorem IsApart.set {r : Record} (h : r.IsApart) (name : String) (value : Item) :
    (r.set name value).IsApart := by
  by_cases hreserved : name ∈ reservedNames
  · have hextras : (r.set name value).extras = r.extras := by rw [extras_set, if_pos hreserved]
    exact ⟨hextras ▸ h.nodup, hextras ▸ h.free⟩
  · have hextras : (r.set name value).extras = Table.put name value r.extras := by
      rw [extras_set, if_neg hreserved]
    refine ⟨hextras ▸ Table.nodup_put h.nodup name value, ?_⟩
    rw [hextras]
    intro n hn
    rcases Table.mem_names_put hn with rfl | hn
    · exact hreserved
    · exact h.free n hn

theorem isApart_ofAttributes (attributes : List (String × Item)) :
    (ofAttributes attributes).IsApart := by
  have hfold : ∀ r : Record, r.IsApart →
      (attributes.foldl (fun r a => r.set a.1 a.2) r).IsApart := by
    induction attributes with
    | nil => exact fun r h => h
    | cons a attributes ih => exact fun r h => ih _ (h.set a.1 a.2)
  exact hfold {} ⟨List.nodup_nil, nofun⟩

theorem isApart_reporting (attributes : List (String × Item)) (report : Option Report) :
    (reporting attributes report).IsApart :=
  ⟨(isApart_ofAttributes attributes).nodup, (isApart_ofAttributes attributes).free⟩

theorem nodup_shown {r : Record} (h : r.IsApart) : r.shown.names.Nodup :=
  (List.filter_sublist.map _).nodup h.nodup

/-! ## Members by name -/

/-- The members of a table. -/
def coded (t : Table (Except LineError Json)) : List Member :=
  t.map fun e => (Text.codePoints e.1, e.2)

theorem fixedMembers_eq_coded (r : Record) (stamp : DateTime) (message : List Nat) :
    r.fixedMembers stamp message = coded (r.own stamp message) := by
  unfold fixedMembers own
  cases r.report <;> rfl

theorem setMember_coded (name : String) (value : Except LineError Json)
    (t : Table (Except LineError Json)) :
    setMember (Text.codePoints name, value) (coded t) = coded (t.put name value) := by
  induction t with
  | nil => rfl
  | cons e t ih =>
    by_cases hname : e.1 = name
    · simp [coded, setMember, Table.put, hname]
    · have hcodes : Text.codePoints e.1 ≠ Text.codePoints name := fun hcodes =>
        hname (codePoints_injective hcodes)
      simp only [coded, List.map_cons, setMember, if_neg hcodes, Table.put, if_neg hname]
      exact congrArg _ ih

/-- Attaching extras is an update by those that are shown. -/
theorem attach_coded (t : Table (Except LineError Json)) (extras : List (String × Item)) :
    attach (coded t) extras =
      coded (t.update (Table.mapValues Item.json (extras.filter (!·.2.isCallable)))) := by
  induction extras generalizing t with
  | nil => rfl
  | cons e extras ih =>
    by_cases hcallable : e.2.isCallable = true
    · rw [attach, if_pos hcallable, ih, List.filter_cons_of_neg (by simp [hcallable])]
    · rw [attach, if_neg hcallable, setMember_coded, ih,
        List.filter_cons_of_pos (by simp [hcallable])]
      rfl

theorem collect_coded {t : Table (Except LineError Json)} {members : List (List Nat × Json)}
    (h : collect (coded t) = .ok members) :
    ∃ said : Table Json, t = said.mapValues .ok ∧ Json.object members = .obj said := by
  induction t generalizing members with
  | nil =>
    cases h
    exact ⟨[], rfl, rfl⟩
  | cons e t ih =>
    obtain ⟨name, value⟩ := e
    cases value with
    | error e => cases h
    | ok j =>
      obtain ⟨rest, hrest, rfl⟩ := map_eq_ok h
      obtain ⟨said, rfl, hobject⟩ := ih hrest
      refine ⟨(name, j) :: said, rfl, ?_⟩
      rw [Json.obj, List.map_cons, ← Json.object.inj hobject]

/-! ## Reading -/

theorem isReadable_obj {said : Table Json} (h : ∀ e ∈ said, e.2.IsReadable) :
    (Json.obj said).IsReadable := by
  induction said with
  | nil => trivial
  | cons e said ih =>
    obtain ⟨he, hsaid⟩ := List.forall_mem_cons.mp h
    exact ⟨Json.inRange_codePoints e.1, he, ih hsaid⟩

theorem joined_obj (said : Table Json) :
    (Json.obj said).joined = .obj (said.mapValues Json.joined) := by
  have hmembers : Json.joinedMembers (said.map fun e => (Text.codePoints e.1, e.2)) =
      (said.mapValues Json.joined).map fun e => (Text.codePoints e.1, e.2) := by
    induction said with
    | nil => rfl
    | cons e said ih =>
      rw [List.map_cons, Json.joinedMembers, Json.joinedText_codePoints, ih]
      rfl
  exact congrArg Json.object hmembers

/-- If there is a value, it is read back. -/
def IsSound (value : Except LineError Json) : Prop := ∀ j, value = .ok j → j.IsReadable

theorem isSound_json (item : Item) : IsSound item.json := fun _ h => Item.isReadable_json item h

theorem isSound_text {text : List Nat} (h : Json.InRange text) : IsSound (.ok (.text text)) := by
  rintro _ ⟨⟩
  exact h

/-! ## What the record itself says -/

theorem isSound_own {r : Record} {stamp : DateTime} {message : List Nat}
    (hmessage : r.message = .ok message) : ∀ e ∈ r.own stamp message, IsSound e.2 := by
  simp only [own, List.forall_mem_append, List.forall_mem_cons]
  refine ⟨⟨isSound_text (Percent.inRange_codes _), isSound_json _, isSound_json _,
    isSound_text (inRange_message hmessage), nofun⟩, ?_⟩
  cases r.report with
  | none => exact nofun
  | some report => exact List.forall_mem_singleton.mpr (isSound_text (Percent.inRange_codes _))

theorem nodup_own (r : Record) (stamp : DateTime) (message : List Nat) :
    (r.own stamp message).names.Nodup := by
  unfold own
  cases r.report with
  | none => exact (by decide : lineNames.Nodup)
  | some report => exact (by decide : fixedNames.Nodup)

/-! ## Lines -/

/-- What a line says under a name: what an extra of that name says, and otherwise what the record
itself says. -/
def said? (r : Record) (stamp : DateTime) (message : List Nat) (name : String) :
    Option (Except LineError Json) :=
  ((r.shown.get? name).map Item.json).or ((r.own stamp message).get? name)

/-- What was read under every name is what the line says under it. -/
def Reads (r : Record) (stamp : DateTime) (message : List Nat) (read : Table Json) : Prop :=
  ∀ name, (read.get? name).map Except.ok =
    (r.said? stamp message name).map (Except.map Json.joined)

theorem line_ok {r : Record} {line : List Char} (h : r.line = .ok line) :
    ∃ stamp message, ∃ said : Table Json,
      r.created.stamp = .ok stamp ∧ r.message = .ok message ∧
      (r.own stamp message).update (r.shown.mapValues Item.json) = said.mapValues .ok ∧
      line = (Json.obj said).print := by
  obtain ⟨j, hj, rfl⟩ := map_eq_ok h
  unfold json at hj
  split at hj
  · cases hj
  · next stamp hstamp =>
    split at hj
    · cases hj
    · next message hmessage =>
      obtain ⟨members, hmembers, rfl⟩ := map_eq_ok hj
      rw [fixedMembers_eq_coded, attach_coded] at hmembers
      obtain ⟨said, hsaid, hobject⟩ := collect_coded hmembers
      exact ⟨stamp, message, said, hstamp, hmessage, hsaid, by rw [hobject]⟩

section

variable {r : Record} {stamp : DateTime} {message : List Nat} {said : Table Json}

/-- Whatever stands in a line is read back as it was printed. -/
theorem isReadable_said (hmessage : r.message = .ok message)
    (hsaid : (r.own stamp message).update (r.shown.mapValues Item.json) = said.mapValues .ok) :
    (Json.obj said).IsReadable := by
  refine isReadable_obj fun e he => ?_
  have hmem : (e.1, Except.ok e.2) ∈ (r.own stamp message).update (r.shown.mapValues Item.json) :=
    hsaid ▸ List.mem_map.mpr ⟨e, he, rfl⟩
  rcases Table.mem_update hmem with hown | hshown
  · exact isSound_own hmessage _ hown e.2 rfl
  · obtain ⟨d, -, hd⟩ := List.mem_map.mp hshown
    exact isSound_json d.2 e.2 (congrArg Prod.snd hd)

theorem nodup_said
    (hsaid : (r.own stamp message).update (r.shown.mapValues Item.json) = said.mapValues .ok) :
    said.names.Nodup := by
  rw [← Table.names_mapValues Except.ok, ← hsaid]
  exact Table.nodup_update (nodup_own r stamp message) _

theorem get?_said (hr : r.IsApart)
    (hsaid : (r.own stamp message).update (r.shown.mapValues Item.json) = said.mapValues .ok)
    (name : String) : (said.get? name).map Except.ok = r.said? stamp message name := by
  have hshown : (r.shown.mapValues Item.json).names.Nodup := by
    rw [Table.names_mapValues]
    exact nodup_shown hr
  rw [← Table.get?_mapValues, ← hsaid, Table.get?_update hshown, Table.get?_mapValues, said?]

end

/-- A line is read as one object that has no name twice. -/
theorem line_says {r : Record} (hr : r.IsApart) {line : List Char} (h : r.line = .ok line) :
    ∃ stamp message, ∃ read : Table Json,
      r.created.stamp = .ok stamp ∧ r.message = .ok message ∧
      Json.parse? line = some (.obj read) ∧ read.names.Nodup ∧ r.Reads stamp message read := by
  obtain ⟨stamp, message, said, hstamp, hmessage, hsaid, rfl⟩ := line_ok h
  refine ⟨stamp, message, said.mapValues Json.joined, hstamp, hmessage, ?_, ?_, ?_⟩
  · rw [Json.parse?_print (isReadable_said hmessage hsaid), joined_obj]
  · rw [Table.names_mapValues]
    exact nodup_said hsaid
  · intro name
    rw [← get?_said hr hsaid, Table.get?_mapValues, Option.map_map, Option.map_map]
    rfl

theorem Reads.get? {r : Record} {stamp : DateTime} {message : List Nat} {read : Table Json}
    (h : r.Reads stamp message read) {name : String} {j : Json}
    (hname : r.said? stamp message name = some (.ok j)) : read.get? name = some j.joined := by
  have hget := h name
  rw [hname] at hget
  obtain ⟨k, hk, hsame⟩ := Option.map_eq_some_iff.mp hget
  rw [hk, Except.ok.inj hsame]

/-- The fixed members are those of the record itself exactly if no extra under one of their names
says something else. -/
theorem Reads.tells_iff {r : Record} {stamp : DateTime} {message : List Nat} {read : Table Json}
    (h : r.Reads stamp message read) (hr : r.IsApart) :
    r.Tells stamp message read ↔ ∀ e ∈ r.shown, e.1 ∈ fixedNames →
      some (e.2.json.map Json.joined) =
        ((r.own stamp message).get? e.1).map (Except.map Json.joined) := by
  constructor
  · intro htells e he hname
    have hsaid := h e.1
    rw [htells e.1 hname, said?, Table.get?_of_mem (nodup_shown hr) he] at hsaid
    exact hsaid.symm
  · intro hextras name hname
    rw [h name, said?]
    cases hget : r.shown.get? name with
    | none => rfl
    | some item => exact hextras (name, item) (Table.mem_of_get? hget) hname

/-- The message is a name that no extra can have. -/
theorem said?_message {r : Record} (hr : r.IsApart) (stamp : DateTime) (message : List Nat) :
    r.said? stamp message "message" = some (.ok (.text message)) := by
  have hfree : "message" ∉ Table.names r.shown := fun hmem =>
    hr.free "message" ((List.filter_sublist.map _).subset hmem) (by decide)
  rw [said?, Table.get?_eq_none hfree]
  rfl

/-- The line of a record, whatever its attributes are named and hold, is read as one object without
a name twice. Its message is always the one of the record, but for surrogates that make a pair. Its
time, level and logger, and whether and what it reports, are those of the record exactly if every
extra under one of these names says the same. -/
theorem line_identity_iff {attributes : List (String × Item)} {report : Option Report}
    {line : List Char} (h : (reporting attributes report).line = .ok line) :
    ∃ stamp message, ∃ read : Table Json,
      (reporting attributes report).created.stamp = .ok stamp ∧
      (reporting attributes report).message = .ok message ∧
      Json.parse? line = some (.obj read) ∧ read.names.Nodup ∧
      read.get? "message" = some (.text (Json.joinedText message)) ∧
      ((reporting attributes report).Tells stamp message read ↔
        ∀ e ∈ (reporting attributes report).shown, e.1 ∈ fixedNames →
          some (e.2.json.map Json.joined) =
            (((reporting attributes report).own stamp message).get? e.1).map
              (Except.map Json.joined)) := by
  have hr := isApart_reporting attributes report
  obtain ⟨stamp, message, read, hstamp, hmessage, hparse, hnames, hsaid⟩ := line_says hr h
  exact ⟨stamp, message, read, hstamp, hmessage, hparse, hnames,
    hsaid.get? (said?_message hr stamp message), hsaid.tells_iff hr⟩

/-- A record with a report, and extras under none of the fixed names. -/
theorem line_identity_kept :
    ∃ line stamp message, ∃ read : Table Json,
      (reporting nested (some .nothing)).line = .ok line ∧
      (reporting nested (some .nothing)).created.stamp = .ok stamp ∧
      (reporting nested (some .nothing)).message = .ok message ∧
      Json.parse? line = some (.obj read) ∧
      (reporting nested (some .nothing)).Tells stamp message read := by
  obtain ⟨stamp, message, read, hstamp, hmessage, hparse, -, -, htells⟩ :=
    @line_identity_iff nested (some .nothing) _ rfl
  have hnames : ∀ e ∈ (reporting nested (some .nothing)).shown, e.1 ∉ fixedNames := by decide
  exact ⟨_, stamp, message, read, rfl, hstamp, hmessage, hparse,
    htells.mpr fun e he hname => absurd hname (hnames e he)⟩

/-- An extra under the name of the level, and one under that of the report. -/
def forged : List (String × Item) :=
  [("name", .text "app"), ("levelname", .text "INFO"), ("msg", .text "hello"),
    ("level", .text "FORGED"), ("exception", .text "none")]

/-- The line says another level than the record, and reports what the record does not. -/
theorem line_forged :
    ∃ line, ∃ read : Table Json,
      (reporting forged none).line = .ok line ∧ Json.parse? line = some (.obj read) ∧
      (reporting forged none).level.json = .ok (.str "INFO") ∧
      (reporting forged none).report = none ∧
      read.get? "level" = some (.str "FORGED") ∧ read.get? "exception" = some (.str "none") := by
  obtain ⟨stamp, message, read, -, -, hparse, -, hsaid⟩ :=
    line_says (isApart_reporting forged none) rfl
  have hlevel : (reporting forged none).said? stamp message "level" =
      some (.ok (.str "FORGED")) := rfl
  have hexception : (reporting forged none).said? stamp message "exception" =
      some (.ok (.str "none")) := rfl
  exact ⟨_, read, rfl, hparse, rfl, rfl, hsaid.get? hlevel, hsaid.get? hexception⟩

end Accounts.Log.Record
