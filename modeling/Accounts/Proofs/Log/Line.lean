import Mathlib.Data.List.Nodup
import Accounts.Log.Logger
import Accounts.Proofs.Log.Plain

/-!
What a line says: after its time, level, logger and message, all attributes of the record that are
not reserved and no functions, each by its name and with its value.
-/
namespace Accounts.Log.Record

/-- Names of the members that every line begins with. -/
def lineNames : List String := ["timestamp", "level", "logger", "message"]

/-- The members that every line begins with. -/
def heading (stamp : DateTime) (level logger : Json) (message : List Nat) :
    List (List Nat × Json) :=
  [(Text.codePoints "timestamp", .text (Percent.codes stamp.renderUtc)),
    (Text.codePoints "level", level), (Text.codePoints "logger", logger),
    (Text.codePoints "message", .text message)]

/-- What a line shows beyond them. -/
def extrasOf (attributes : List (String × Item)) : List (String × Item) :=
  attributes.filter fun a => !reservedNames.contains a.1 && !a.2.isCallable

/-! ## Attributes -/

theorem extras_set (r : Record) (name : String) (value : Item) :
    (r.set name value).extras =
      if name ∈ reservedNames then r.extras else Table.put name value r.extras := by
  simp only [← List.contains_iff_mem]
  unfold set
  -- The attributes that have a place of their own are reserved.
  iterate 5
    split
    · next h => subst h; rfl
  split <;> rfl

theorem report_set (r : Record) (name : String) (value : Item) :
    (r.set name value).report = r.report := by
  unfold set
  repeat' split
  all_goals rfl

theorem report_ofAttributes (attributes : List (String × Item)) :
    (ofAttributes attributes).report = none := by
  have hfold : ∀ r : Record, (attributes.foldl (fun r a => r.set a.1 a.2) r).report = r.report := by
    induction attributes with
    | nil => exact fun r => rfl
    | cons a attributes ih => exact fun r => (ih (r.set a.1 a.2)).trans (report_set r a.1 a.2)
  exact hfold {}

/-- The next of several attributes has a new name. -/
theorem put_of_nodup {a : String × Item} {attributes extras : List (String × Item)}
    (h : (Table.names extras ++ (a :: attributes).map (·.1)).Nodup) :
    Table.put a.1 a.2 extras = extras ++ [a] := by
  have hname := (List.nodup_cons.mp (List.nodup_middle.mp h)).1
  have hfresh : a.1 ∉ Table.names extras := fun hmem => hname (List.mem_append_left _ hmem)
  exact (Table.put_of_get?_none (Table.get?_eq_none hfresh) a.2).2

/-- Attributes of different names are attached in their order. -/
theorem extras_foldl_set {attributes : List (String × Item)} (r : Record)
    (h : (Table.names r.extras ++ attributes.map (·.1)).Nodup) :
    (attributes.foldl (fun r a => r.set a.1 a.2) r).extras =
      r.extras ++ attributes.filter fun a => !reservedNames.contains a.1 := by
  induction attributes generalizing r with
  | nil => exact (List.append_nil _).symm
  | cons a attributes ih =>
    rw [List.foldl_cons]
    by_cases hreserved : a.1 ∈ reservedNames
    · have hset : (r.set a.1 a.2).extras = r.extras := by rw [extras_set, if_pos hreserved]
      have hrest := (List.nodup_cons.mp (List.nodup_middle.mp h)).2
      rw [ih _ (hset ▸ hrest), hset, List.filter_cons_of_neg (by simp [hreserved])]
    · have hset : (r.set a.1 a.2).extras = r.extras ++ [a] := by
        rw [extras_set, if_neg hreserved, put_of_nodup h]
      have hrest : (Table.names (r.set a.1 a.2).extras ++ attributes.map (·.1)).Nodup := by
        simpa [hset, Table.names] using h
      rw [ih _ hrest, hset, List.filter_cons_of_pos (by simp [hreserved]), List.append_assoc,
        List.singleton_append]

theorem extras_ofAttributes {attributes : List (String × Item)}
    (h : (attributes.map (·.1)).Nodup) :
    (ofAttributes attributes).extras = attributes.filter fun a => !reservedNames.contains a.1 :=
  extras_foldl_set {} h

/-! ## Members -/

theorem setMember_of_fresh {m : Member} {ms : List Member} (h : m.1 ∉ ms.map (·.1)) :
    setMember m ms = ms ++ [m] := by
  induction ms with
  | nil => rfl
  | cons n ms ih =>
    simp only [List.map_cons, List.mem_cons, not_or] at h
    rw [setMember, if_neg (Ne.symm h.1), ih h.2, List.cons_append]

/-- Extras of new names follow what is there, without the functions. -/
theorem attach_of_fresh {extras : List (String × Item)} (ms : List Member)
    (h : (ms.map (·.1) ++
      (extras.filter (!·.2.isCallable)).map fun e => Text.codePoints e.1).Nodup) :
    attach ms extras =
      ms ++ (extras.filter (!·.2.isCallable)).map fun e => (Text.codePoints e.1, e.2.json) := by
  induction extras generalizing ms with
  | nil => exact (List.append_nil ms).symm
  | cons e extras ih =>
    by_cases hcallable : e.2.isCallable = true
    · have hfilter : (e :: extras).filter (!·.2.isCallable) = extras.filter (!·.2.isCallable) :=
        List.filter_cons_of_neg (by simp [hcallable])
      rw [hfilter] at h ⊢
      rw [attach, if_pos hcallable, ih ms h]
    · have hfilter : (e :: extras).filter (!·.2.isCallable) =
          e :: extras.filter (!·.2.isCallable) := List.filter_cons_of_pos (by simp [hcallable])
      rw [hfilter, List.map_cons] at h
      have hfresh : Text.codePoints e.1 ∉ ms.map (·.1) := fun hmem =>
        (List.nodup_cons.mp (List.nodup_middle.mp h)).1 (List.mem_append_left _ hmem)
      have hnames : ((ms ++ [(Text.codePoints e.1, e.2.json)]).map (·.1) ++
          (extras.filter (!·.2.isCallable)).map fun e => Text.codePoints e.1).Nodup := by
        simpa using h
      rw [attach, if_neg hcallable, setMember_of_fresh hfresh, ih _ hnames, hfilter, List.map_cons,
        List.append_assoc, List.singleton_append]

theorem codePoints_injective {s t : String} (h : Text.codePoints s = Text.codePoints t) : s = t := by
  have hread := congrArg Item.textOf? h
  simpa only [Item.textOf?_codePoints, Option.some.injEq] using hread

/-- Plain extras can all be written, and come back. -/
theorem exists_attached {extras : List (String × Item)} (h : ∀ e ∈ extras, e.2.isPlain = true) :
    ∃ attached, Item.EntriesReadBack (extras.map fun e => (Item.text e.1, e.2)) attached ∧
      attached.map (·.1) = extras.map (fun e => Text.codePoints e.1) ∧
      collect (extras.map fun e => (Text.codePoints e.1, e.2.json)) = .ok attached := by
  induction extras with
  | nil => exact ⟨[], ⟨rfl, trivial, rfl, rfl⟩, rfl, rfl⟩
  | cons e extras ih =>
    obtain ⟨he, hextras⟩ := List.forall_mem_cons.mp h
    obtain ⟨j, hj⟩ := Item.exists_readsBack e.2 he
    obtain ⟨attached, hread, hnames, hcollect⟩ := ih hextras
    refine ⟨(Text.codePoints e.1, j) :: attached, hj.entry e.1 hread, ?_, ?_⟩
    · rw [List.map_cons, List.map_cons, hnames]
    · rw [List.map_cons, hj.written, collect, hcollect]
      rfl

theorem collect_written (members : List (List Nat × Json)) (rest : List Member) :
    collect (members.map (fun m => (m.1, .ok m.2)) ++ rest) =
      (collect rest).map (members ++ ·) := by
  induction members with
  | nil => cases h : collect rest <;> simp [h, Except.map]
  | cons m members ih =>
    rw [List.map_cons, List.cons_append, collect, ih]
    cases collect rest <;> rfl

/-! ## Lines -/

/-- The names of a line are those of its heading and of its extras, each once. -/
theorem nodup_names {attributes : List (String × Item)}
    (hnames : (attributes.map (·.1)).Nodup) (hfresh : ∀ e ∈ extrasOf attributes, e.1 ∉ lineNames) :
    (lineNames.map Text.codePoints ++
      (extrasOf attributes).map fun e => Text.codePoints e.1).Nodup := by
  have hextras : ((extrasOf attributes).map (·.1)).Nodup :=
    (List.Sublist.map (fun a : String × Item => a.1) List.filter_sublist).nodup hnames
  have hstrings : (lineNames ++ (extrasOf attributes).map (·.1)).Nodup := by
    refine List.nodup_append.mpr ⟨by decide, hextras, ?_⟩
    rintro name hname _ hextra rfl
    obtain ⟨e, he, rfl⟩ := List.mem_map.mp hextra
    exact hfresh e he hname
  have hcodes := hstrings.map fun s t => codePoints_injective
  rwa [List.map_append, List.map_map] at hcodes

theorem filter_extras_ofAttributes {attributes : List (String × Item)}
    (h : (attributes.map (·.1)).Nodup) :
    (ofAttributes attributes).extras.filter (!·.2.isCallable) = extrasOf attributes := by
  simp only [extras_ofAttributes h, extrasOf, List.filter_filter, Bool.and_comm]

/-- The JSON of a record without a report. -/
theorem json_eq {r : Record} {stamp : DateTime} {message : List Nat} {level logger : Json}
    {attached : List (List Nat × Json)} (hreport : r.report = none)
    (hstamp : r.created.stamp = .ok stamp) (hmessage : r.message = .ok message)
    (hlevel : r.level.json = .ok level) (hlogger : r.logger.json = .ok logger)
    (hnames : (lineNames.map Text.codePoints ++
      (r.extras.filter (!·.2.isCallable)).map fun e => Text.codePoints e.1).Nodup)
    (hattached : collect ((r.extras.filter (!·.2.isCallable)).map
      fun e => (Text.codePoints e.1, e.2.json)) = .ok attached) :
    r.json = .ok (.object (heading stamp level logger message ++ attached)) := by
  have hfixed : r.fixedMembers stamp message =
      (heading stamp level logger message).map fun m => (m.1, .ok m.2) := by
    rw [fixedMembers, hreport, hlevel, hlogger]
    rfl
  have hattach : attach (r.fixedMembers stamp message) r.extras =
      r.fixedMembers stamp message ++ (r.extras.filter (!·.2.isCallable)).map
        fun e => (Text.codePoints e.1, e.2.json) :=
    attach_of_fresh _ (by rw [hfixed]; exact hnames)
  rw [json, hstamp]
  simp only [hmessage]
  rw [hattach, hfixed, collect_written, hattached]
  rfl

theorem isReadable_heading {stamp : DateTime} {message : List Nat} {level logger : Json}
    {attached : List (List Nat × Json)} (hmessage : Json.InRange message)
    (hlevel : level.IsReadable) (hlogger : logger.IsReadable)
    (hattached : Json.HasReadable attached) :
    (Json.object (heading stamp level logger message ++ attached)).IsReadable :=
  ⟨Json.inRange_codePoints _, Percent.inRange_codes _, Json.inRange_codePoints _, hlevel,
    Json.inRange_codePoints _, hlogger, Json.inRange_codePoints _, hmessage, hattached⟩

/-- Nothing but the message may hold surrogates. -/
theorem joined_heading {stamp : DateTime} {message : List Nat} {level logger : Json}
    {attached : List (List Nat × Json)} (hlevel : level.joined = level)
    (hlogger : logger.joined = logger) (hattached : Json.joinedMembers attached = attached) :
    (Json.object (heading stamp level logger message ++ attached)).joined =
      .object (heading stamp level logger (Json.joinedText message) ++ attached) := by
  have htime : Json.joinedText (Percent.codes stamp.renderUtc) = Percent.codes stamp.renderUtc :=
    Json.joinedText_map_toNat stamp.renderUtc
  simp only [heading, List.cons_append, List.nil_append, Json.joined, Json.joinedMembers,
    Json.joinedText_codePoints, htime, hlevel, hlogger, hattached]

/-- A record without a report whose level, logger and extras are plain: the line begins with the
heading, and every attribute that is neither reserved nor a function follows with its name and value.
Nothing else is in it, and no name twice. The message is what the record says, but for surrogates
that make a pair. -/
theorem line_reads_back {attributes : List (String × Item)} {stamp : DateTime}
    {message : List Nat} (hnames : (attributes.map (·.1)).Nodup)
    (hstamp : (ofAttributes attributes).created.stamp = .ok stamp)
    (hmessage : (ofAttributes attributes).message = .ok message)
    (hlevel : (ofAttributes attributes).level.isPlain = true)
    (hlogger : (ofAttributes attributes).logger.isPlain = true)
    (hextras : ∀ e ∈ extrasOf attributes, e.1 ∉ lineNames ∧ e.2.isPlain = true) :
    ∃ line level logger attached,
      (ofAttributes attributes).line = .ok line ∧
      Json.parse? line =
        some (.object (heading stamp level logger (Json.joinedText message) ++ attached)) ∧
      ((heading stamp level logger (Json.joinedText message) ++ attached).map (·.1)).Nodup ∧
      Item.ofJson? level = some (ofAttributes attributes).level.untupled ∧
      Item.ofJson? logger = some (ofAttributes attributes).logger.untupled ∧
      Item.ofJsonMembers? attached =
        some ((extrasOf attributes).map fun e => (Item.text e.1, e.2.untupled)) ∧
      (Json.joinedText message = message ↔ ¬Json.HasPair message) := by
  obtain ⟨level, hl⟩ := Item.exists_readsBack _ hlevel
  obtain ⟨logger, hg⟩ := Item.exists_readsBack _ hlogger
  obtain ⟨attached, ha, hattached, hcollect⟩ := exists_attached fun e he => (hextras e he).2
  have hnodup := nodup_names hnames fun e he => (hextras e he).1
  have hshown := filter_extras_ofAttributes hnames
  have hjson := json_eq (report_ofAttributes attributes) hstamp hmessage hl.written hg.written
    (hshown.symm ▸ hnodup) (hshown.symm ▸ hcollect)
  have hreadable : (Json.object (heading stamp level logger message ++ attached)).IsReadable :=
    isReadable_heading (inRange_message hmessage) hl.readable hg.readable ha.readable
  refine ⟨_, level, logger, attached, by rw [line, hjson]; rfl, ?_, ?_, hl.read, hg.read, ?_,
    Json.joinedText_eq_self_iff message⟩
  · rw [Json.parse?_print hreadable, joined_heading hl.joined hg.joined ha.joined]
  · rw [List.map_append, hattached]
    exact hnodup
  · rw [ha.read, Item.untupledEntries_eq_map, List.map_map]
    rfl

/-- A record with a function and a nested value among its attributes. -/
def nested : List (String × Item) :=
  [("name", .text "app"), ("levelname", .text "INFO"), ("msg", .text "%s of %d"),
    ("args", .tuple [.text "é", .int 7]), ("lineno", .int 3), ("who", .text "\"😀\\\n"),
    ("done", .callable), ("data", .dict [(.text "ü", .tuple [.int (-5), .null, .list []])])]

/-- The line number and the function are not shown, and the tuple has become a list. -/
theorem line_reads_back_nested :
    ∃ line level logger attached,
      (ofAttributes nested).line = .ok line ∧
      Json.parse? line =
        some (.object (heading ⟨⟨1970, 1, 1⟩, 0, 0, some 0⟩ level logger
          (Text.codePoints "é of 7") ++ attached)) ∧
      Item.ofJson? level = some (.text "INFO") ∧ Item.ofJson? logger = some (.text "app") ∧
      Item.ofJsonMembers? attached = some [(.text "who", .text "\"😀\\\n"),
        (.text "data", .dict [(.text "ü", .list [.int (-5), .null, .list []])])] := by
  obtain ⟨line, level, logger, attached, hline, hparse, -, hlevel, hlogger, hattached, -⟩ :=
    @line_reads_back nested _ _ (by decide) rfl rfl (by decide) (by decide) (by decide)
  exact ⟨line, level, logger, attached, hline, hparse, hlevel, hlogger, hattached⟩

/-- Two surrogates, each written as a number. -/
def halves : List (String × Item) :=
  [("msg", .text "%c%c"), ("args", .tuple [.int 0xD83D, .int 0xDE00])]

/-- They are read as one character. -/
theorem halves_joined :
    ∃ line message said, (ofAttributes halves).line = .ok line ∧
      (ofAttributes halves).message = .ok message ∧
      (Json.parse? line).bind (·.get? "message") = some (.text said) ∧ said ≠ message :=
  ⟨_, [0xD83D, 0xDE00], [0x1F600], rfl, rfl, rfl, by decide⟩

end Accounts.Log.Record
