import Accounts.Proofs.Log.Identity
import Accounts.Proofs.Time.Value

/-!
Whether a line is JSON. Its grammar is kept and no name occurs twice in an object as long as every
double that is shown as a number is one, and no two keys of a dictionary are written alike. A double
that is not finite is written as a word that JSON does not have, and a key that is no text takes the
name that a text may have as well.
-/
namespace Accounts

namespace Json

/-- A text of the grammar. -/
def IsText (s : List Char) : Prop := ∃ j, Grammar.Element IsNumber s j

/-- A text of the grammar that stands for an object, and no object in it has a name twice. -/
def IsStrictObject (s : List Char) : Prop :=
  ∃ members, Grammar.Element IsNumber s (.object members) ∧
    ∀ names ∈ (Json.object members).nameLists, names.Nodup

theorem numbers_obj (t : Table Json) : (Json.obj t).numbers = t.flatMap fun e => e.2.numbers := by
  induction t with
  | nil => rfl
  | cons e t ih =>
    rw [List.flatMap_cons, ← ih]
    rfl

theorem nameLists_obj (t : Table Json) :
    (Json.obj t).nameLists =
      t.names.map Text.codePoints :: t.flatMap fun e => e.2.nameLists := by
  have hmembers : memberNameLists (t.map fun e => (Text.codePoints e.1, e.2)) =
      t.flatMap fun e => e.2.nameLists := by
    induction t with
    | nil => rfl
    | cons e t ih => rw [List.map_cons, memberNameLists, ih, List.flatMap_cons]
  rw [obj, nameLists, hmembers, List.map_map, Table.names, List.map_map]
  rfl

/-- Every number is one, and no object has a name twice, as the names are read. -/
structure IsStrict (j : Json) : Prop where
  numbers : ∀ w ∈ j.numbers, IsNumber w
  names : ∀ names ∈ j.joined.nameLists, names.Nodup

theorem isStrict_text (codePoints : List Nat) : (Json.text codePoints).IsStrict :=
  ⟨List.forall_mem_nil _, List.forall_mem_nil _⟩

end Json

namespace Log

/-! ## Items -/

namespace Item

mutual

/-- The doubles that are shown as numbers, which keys are not. -/
def doubles : Item → List Double
  | .atom (.double x) => [x]
  | .list items | .tuple items => itemDoubles items
  | .dict entries => entryDoubles entries
  | .atom _ | .bytes _ | .time _ | .kind _ | .exception .. | .user .. | .callable => []

def itemDoubles : List Item → List Double
  | [] => []
  | item :: items => item.doubles ++ itemDoubles items

def entryDoubles : List (Item × Item) → List Double
  | [] => []
  | (_, value) :: entries => value.doubles ++ entryDoubles entries

end

mutual

/-- The dictionaries that are shown as objects. -/
def dictionaries : Item → List (List (Item × Item))
  | .list items | .tuple items => itemDictionaries items
  | .dict entries => entries :: entryDictionaries entries
  | .atom _ | .bytes _ | .time _ | .kind _ | .exception .. | .user .. | .callable => []

def itemDictionaries : List Item → List (List (Item × Item))
  | [] => []
  | item :: items => item.dictionaries ++ itemDictionaries items

def entryDictionaries : List (Item × Item) → List (List (Item × Item))
  | [] => []
  | (_, value) :: entries => value.dictionaries ++ entryDictionaries entries

end

/-- The names that the keys of a dictionary are given. -/
def entryNames (entries : List (Item × Item)) : List (Except LineError (List Nat)) :=
  entries.map fun e => e.1.memberName

/-- Every number is one, and no two keys of a dictionary have the same name. -/
structure IsStrict (item : Item) : Prop where
  finite : ∀ x ∈ item.doubles, x.magnitude.IsFinite
  names : ∀ entries ∈ item.dictionaries, (entryNames entries).Nodup

instance (item : Item) : Decidable item.IsStrict :=
  decidable_of_iff ((∀ x ∈ item.doubles, x.magnitude.IsFinite) ∧
      ∀ entries ∈ item.dictionaries, (entryNames entries).Nodup)
    ⟨fun h => ⟨h.1, h.2⟩, fun h => ⟨h.finite, h.names⟩⟩

theorem isNumber_doubleWord_iff (x : Double) :
    Json.IsNumber (doubleWord x) ↔ x.magnitude.IsFinite := by
  cases hx : x.magnitude with
  | finite s m e => exact iff_of_true (isNumber_doubleWord hx) trivial
  | undefined | infinite s =>
    refine iff_of_false (Json.not_isNumber_of_mem_doubleWords ?_) not_false
    exact doubleWord_mem_doubleWords fun s m e h => by rw [hx] at h; cases h

mutual

theorem numbers_json_iff (item : Item) {j : Json} (h : item.json = .ok j) :
    (∀ w ∈ j.numbers, Json.IsNumber w) ↔ ∀ x ∈ item.doubles, x.magnitude.IsFinite := by
  cases item with
  | atom a =>
    cases a with
    | double x =>
      cases h
      simpa [Json.numbers, doubles] using isNumber_doubleWord_iff x
    | int n =>
      cases h
      simpa [Json.numbers, doubles, Json.int] using Json.isNumber_decimalInt n
    | null | bool b | text s | instant seconds =>
      cases h
      exact iff_of_true nofun nofun
  | list items =>
    obtain ⟨js, hjs, rfl⟩ := map_eq_ok h
    exact itemNumbers_jsonItems_iff items hjs
  | tuple items =>
    obtain ⟨js, hjs, rfl⟩ := map_eq_ok h
    exact itemNumbers_jsonItems_iff items hjs
  | dict entries =>
    obtain ⟨members, hmembers, rfl⟩ := map_eq_ok h
    exact memberNumbers_jsonEntries_iff entries hmembers
  | bytes _ | time _ | kind _ | exception _ _ | user _ _ _ | callable =>
    cases h
    exact iff_of_true nofun nofun

theorem itemNumbers_jsonItems_iff (items : List Item) {js : List Json}
    (h : jsonItems items = .ok js) :
    (∀ w ∈ Json.itemNumbers js, Json.IsNumber w) ↔
      ∀ x ∈ itemDoubles items, x.magnitude.IsFinite := by
  match items with
  | [] =>
    cases h
    exact iff_of_true nofun nofun
  | item :: items =>
    obtain ⟨j, rest, hj, hrest, rfl⟩ := jsonItems_cons_ok h
    rw [Json.itemNumbers, itemDoubles, List.forall_mem_append, List.forall_mem_append]
    exact and_congr (numbers_json_iff item hj) (itemNumbers_jsonItems_iff items hrest)

theorem memberNumbers_jsonEntries_iff (entries : List (Item × Item))
    {members : List (List Nat × Json)} (h : jsonEntries entries = .ok members) :
    (∀ w ∈ Json.memberNumbers members, Json.IsNumber w) ↔
      ∀ x ∈ entryDoubles entries, x.magnitude.IsFinite := by
  match entries with
  | [] =>
    cases h
    exact iff_of_true nofun nofun
  | (key, item) :: entries =>
    obtain ⟨name, j, rest, -, hj, hrest, rfl⟩ := jsonEntries_cons_ok h
    rw [Json.memberNumbers, entryDoubles, List.forall_mem_append, List.forall_mem_append]
    exact and_congr (numbers_json_iff item hj) (memberNumbers_jsonEntries_iff entries hrest)

end

theorem joinedText_memberName {item : Item} {name : List Nat} (h : item.memberName = .ok name) :
    Json.joinedText name = name := by
  unfold memberName at h
  split at h <;> cases h
  all_goals first
    | exact Json.joinedText_codePoints _
    | exact Json.joinedText_map_toNat _

theorem names_jsonEntries {entries : List (Item × Item)} {members : List (List Nat × Json)}
    (h : jsonEntries entries = .ok members) :
    ((Json.joinedMembers members).map (·.1)).map Except.ok = entryNames entries := by
  induction entries generalizing members with
  | nil =>
    cases h
    rfl
  | cons e entries ih =>
    obtain ⟨name, j, rest, hname, -, hrest, rfl⟩ := jsonEntries_cons_ok h
    rw [Json.joinedMembers, joinedText_memberName hname, List.map_cons, List.map_cons, ih hrest,
      entryNames, entryNames, List.map_cons, hname]

mutual

/-- The objects are those of the dictionaries. -/
theorem nameLists_json (item : Item) {j : Json} (h : item.json = .ok j) :
    j.joined.nameLists.map (List.map Except.ok) = item.dictionaries.map entryNames := by
  cases item with
  | atom a => cases a <;> cases h <;> rfl
  | list items =>
    obtain ⟨js, hjs, rfl⟩ := map_eq_ok h
    exact itemNameLists_jsonItems items hjs
  | tuple items =>
    obtain ⟨js, hjs, rfl⟩ := map_eq_ok h
    exact itemNameLists_jsonItems items hjs
  | dict entries =>
    obtain ⟨members, hmembers, rfl⟩ := map_eq_ok h
    rw [Json.joined, Json.nameLists, dictionaries, List.map_cons, List.map_cons,
      names_jsonEntries hmembers, memberNameLists_jsonEntries entries hmembers]
  | bytes _ | time _ | kind _ | exception _ _ | user _ _ _ | callable =>
    cases h
    rfl

theorem itemNameLists_jsonItems (items : List Item) {js : List Json}
    (h : jsonItems items = .ok js) :
    (Json.itemNameLists (Json.joinedItems js)).map (List.map Except.ok) =
      (itemDictionaries items).map entryNames := by
  match items with
  | [] =>
    cases h
    rfl
  | item :: items =>
    obtain ⟨j, rest, hj, hrest, rfl⟩ := jsonItems_cons_ok h
    rw [Json.joinedItems, Json.itemNameLists, itemDictionaries, List.map_append, List.map_append,
      nameLists_json item hj, itemNameLists_jsonItems items hrest]

theorem memberNameLists_jsonEntries (entries : List (Item × Item))
    {members : List (List Nat × Json)} (h : jsonEntries entries = .ok members) :
    (Json.memberNameLists (Json.joinedMembers members)).map (List.map Except.ok) =
      (entryDictionaries entries).map entryNames := by
  match entries with
  | [] =>
    cases h
    rfl
  | (key, item) :: entries =>
    obtain ⟨name, j, rest, -, hj, hrest, rfl⟩ := jsonEntries_cons_ok h
    rw [Json.joinedMembers, Json.memberNameLists, entryDictionaries, List.map_append,
      List.map_append, nameLists_json item hj, memberNameLists_jsonEntries entries hrest]

end

/-- What an item is written as is strict exactly if the item is. -/
theorem isStrict_json_iff {item : Item} {j : Json} (h : item.json = .ok j) :
    j.IsStrict ↔ item.IsStrict := by
  have hnames : (∀ names ∈ j.joined.nameLists, names.Nodup) ↔
      ∀ entries ∈ item.dictionaries, (entryNames entries).Nodup :=
    calc (∀ names ∈ j.joined.nameLists, names.Nodup)
        ↔ ∀ names ∈ j.joined.nameLists.map (List.map Except.ok), names.Nodup := by
          rw [List.forall_mem_map]
          exact forall₂_congr fun names _ => (List.nodup_map_iff fun _ _ => Except.ok.inj).symm
      _ ↔ ∀ entries ∈ item.dictionaries, (entryNames entries).Nodup := by
          rw [nameLists_json item h, List.forall_mem_map]
  exact ⟨fun hj => ⟨(numbers_json_iff item h).mp hj.numbers, hnames.mp hj.names⟩,
    fun hitem => ⟨(numbers_json_iff item h).mpr hitem.finite, hnames.mpr hitem.names⟩⟩

end Item

/-! ## Lines -/

namespace Record

theorem numbers_obj_iff (said : Table Json) :
    (∀ w ∈ (Json.obj said).numbers, Json.IsNumber w) ↔
      ∀ e ∈ said, ∀ w ∈ e.2.numbers, Json.IsNumber w := by
  rw [Json.numbers_obj, List.forall_mem_flatMap]

theorem isText_obj_iff {said : Table Json} (h : (Json.obj said).IsReadable) :
    Json.IsText (Json.obj said).print ↔ ∀ e ∈ said, ∀ w ∈ e.2.numbers, Json.IsNumber w := by
  rw [← numbers_obj_iff]
  constructor
  · rintro ⟨j, hj⟩
    exact ((Json.element_print_iff h).mp hj).2
  · exact fun hwords => ⟨_, (Json.element_print_iff h).mpr ⟨rfl, hwords⟩⟩

theorem isStrictObject_obj_iff {said : Table Json} (h : (Json.obj said).IsReadable)
    (hnames : said.names.Nodup) :
    Json.IsStrictObject (Json.obj said).print ↔ ∀ e ∈ said, e.2.IsStrict := by
  have hcodes : (said.names.map Text.codePoints).Nodup :=
    hnames.map fun _ _ => codePoints_injective
  have hlists : (∀ names ∈ (Json.obj (said.mapValues Json.joined)).nameLists, names.Nodup) ↔
      ∀ e ∈ said, ∀ names ∈ e.2.joined.nameLists, names.Nodup := by
    rw [Json.nameLists_obj, Table.names_mapValues, List.forall_mem_cons, and_iff_right hcodes]
    simp only [Table.mapValues, List.flatMap_map, List.forall_mem_flatMap]
  constructor
  · rintro ⟨members, hmembers, hunique⟩
    obtain ⟨hjoined, hwords⟩ := (Json.element_print_iff h).mp hmembers
    rw [hjoined, joined_obj] at hunique
    exact fun e he => ⟨(numbers_obj_iff said).mp hwords e he, hlists.mp hunique e he⟩
  · intro hstrict
    refine ⟨_, (Json.element_print_iff h).mpr ⟨(joined_obj said).symm, ?_⟩, ?_⟩
    · exact (numbers_obj_iff said).mpr fun e he => (hstrict e he).numbers
    · exact hlists.mpr fun e he => (hstrict e he).names

/-- The items that a line shows: the level and the logger, and extras, which replace either if they
have its name. -/
def items (r : Record) : Table Item :=
  Table.update [("level", r.level), ("logger", r.logger)] r.shown

theorem nodup_items (r : Record) : r.items.names.Nodup := by
  have hbase : (Table.names [("level", r.level), ("logger", r.logger)]).Nodup :=
    (by decide : ["level", "logger"].Nodup)
  exact Table.nodup_update hbase r.shown

/-- The texts of a line that are no items. -/
def texts (r : Record) (stamp : DateTime) (message : List Nat) : Table (List Nat) :=
  [("timestamp", Percent.codes stamp.renderUtc), ("message", message)] ++
    match r.report with
    | some report => [("exception", Percent.codes report.render)]
    | none => []

theorem get?_own (r : Record) (stamp : DateTime) (message : List Nat) (name : String) :
    (r.own stamp message).get? name =
      ((Table.get? name [("level", r.level), ("logger", r.logger)]).map Item.json).or
        (((r.texts stamp message).get? name).map fun text => .ok (.text text)) := by
  by_cases hlevel : "level" = name
  · subst hlevel
    rfl
  by_cases hlogger : "logger" = name
  · subst hlogger
    rfl
  unfold own texts
  cases r.report <;>
    simp only [Table.get?, List.cons_append, List.nil_append, if_neg hlevel, if_neg hlogger] <;>
    split_ifs <;> rfl

/-- A line says what is in an item or in one of the texts. -/
theorem said?_eq {r : Record} (hr : r.IsApart) (stamp : DateTime) (message : List Nat)
    (name : String) :
    r.said? stamp message name = ((r.items.get? name).map Item.json).or
      (((r.texts stamp message).get? name).map fun text => .ok (.text text)) := by
  rw [said?, get?_own, items, Table.get?_update (nodup_shown hr)]
  cases r.shown.get? name <;> rfl

/-- What holds of every text holds of all that a line says exactly if it holds of the items. -/
theorem forall_said_iff {r : Record} (hr : r.IsApart) {stamp : DateTime} {message : List Nat}
    {said : Table Json}
    (hsaid : (r.own stamp message).update (r.shown.mapValues Item.json) = said.mapValues .ok)
    {p : Json → Prop} {q : Item → Prop} (htexts : ∀ text, p (.text text))
    (hitems : ∀ item j, item.json = .ok j → (p j ↔ q item)) :
    (∀ e ∈ said, p e.2) ↔ ∀ e ∈ r.items, q e.2 := by
  have hget := get?_said hr hsaid
  rw [Table.forall_mem_iff (nodup_said hsaid), Table.forall_mem_iff r.nodup_items]
  constructor
  · intro hp name item hitem
    have hsays : (said.get? name).map Except.ok = some item.json := by
      rw [hget, said?_eq hr, hitem]
      rfl
    obtain ⟨j, hj, hjson⟩ := Option.map_eq_some_iff.mp hsays
    exact (hitems item j hjson.symm).mp (hp name j hj)
  · intro hq name j hj
    have hsays : r.said? stamp message name = some (.ok j) := by rw [← hget, hj, Option.map_some]
    rw [said?_eq hr] at hsays
    rcases Option.or_eq_some_iff.mp hsays with hitem | ⟨-, htext⟩
    · obtain ⟨item, hitem, hjson⟩ := Option.map_eq_some_iff.mp hitem
      exact (hitems item j hjson).mpr (hq name item hitem)
    · obtain ⟨text, -, htext⟩ := Option.map_eq_some_iff.mp htext
      cases htext
      exact htexts text

theorem isText_line_iff {r : Record} (hr : r.IsApart) {line : List Char} (h : r.line = .ok line) :
    Json.IsText line ↔ ∀ e ∈ r.items, ∀ x ∈ e.2.doubles, x.magnitude.IsFinite := by
  obtain ⟨stamp, message, said, -, hmessage, hsaid, rfl⟩ := line_ok h
  rw [isText_obj_iff (isReadable_said hmessage hsaid)]
  exact forall_said_iff hr hsaid (fun _ => List.forall_mem_nil _)
    fun item _ => item.numbers_json_iff

theorem isStrictObject_line_iff {r : Record} (hr : r.IsApart) {line : List Char}
    (h : r.line = .ok line) : Json.IsStrictObject line ↔ ∀ e ∈ r.items, e.2.IsStrict := by
  obtain ⟨stamp, message, said, -, hmessage, hsaid, rfl⟩ := line_ok h
  rw [isStrictObject_obj_iff (isReadable_said hmessage hsaid) (nodup_said hsaid)]
  exact forall_said_iff hr hsaid Json.isStrict_text fun _ _ => Item.isStrict_json_iff

/-- The line of a record, whatever its attributes are named and hold, is JSON exactly if no number
among the items that it shows is undefined or infinite. It is an object in which, at every depth, no
name occurs twice, exactly if besides no two keys of a dictionary among them have the same name. -/
theorem line_strict_iff {attributes : List (String × Item)} {report : Option Report}
    {line : List Char} (h : (reporting attributes report).line = .ok line) :
    (Json.IsText line ↔ ∀ e ∈ (reporting attributes report).items,
      ∀ x ∈ e.2.doubles, x.magnitude.IsFinite) ∧
    (Json.IsStrictObject line ↔ ∀ e ∈ (reporting attributes report).items, e.2.IsStrict) :=
  ⟨isText_line_iff (isApart_reporting attributes report) h,
    isStrictObject_line_iff (isApart_reporting attributes report) h⟩

/-- A record whose extra has keys of every kind, the number 1.5 and the smallest double, and an
undefined double that is only a key. -/
def keyed : List (String × Item) :=
  [("name", .text "app"), ("levelname", .text "INFO"), ("msg", .text "hello"),
    ("data", .dict [(.int 1, .list [.atom (.double ⟨0x3FF8000000000000⟩), .null]),
      (.null, .tuple [.atom (.double ⟨1⟩), .dict [(.text "1", .bytes [0])]]),
      (.atom (.bool true), .dict []), (.atom (.double Double.nan), .callable)])]

/-- Its line is JSON. -/
theorem line_strict_keyed :
    ∃ line, (reporting keyed (some .nothing)).line = .ok line ∧ Json.IsStrictObject line := by
  have hstrict : ∀ e ∈ (reporting keyed (some .nothing)).items, e.2.IsStrict := by decide
  exact ⟨_, rfl, (@line_strict_iff keyed (some .nothing) _ rfl).2.mpr hstrict⟩

/-- An extra that is an undefined double. -/
def undefined : List (String × Item) :=
  [("msg", .text "hello"), ("x", .atom (.double Double.nan))]

/-- An extra with a number and a text for keys that are written alike. -/
def alike : List (String × Item) :=
  [("msg", .text "hello"), ("x", .dict [(.int 1, .text "a"), (.text "1", .text "b")])]

/-- The line of the first is no JSON, and in that of the second an object has a name twice. -/
theorem line_not_strict :
    (∃ line, (reporting undefined none).line = .ok line ∧ ¬Json.IsText line) ∧
    ∃ line, (reporting alike none).line = .ok line ∧ ¬Json.IsStrictObject line := by
  refine ⟨⟨_, rfl, fun hline => ?_⟩, ⟨_, rfl, fun hline => ?_⟩⟩
  · have hfinite := (isText_line_iff (isApart_reporting undefined none) rfl).mp hline
    exact absurd hfinite (by decide)
  · have hstrict := (isStrictObject_line_iff (isApart_reporting alike none) rfl).mp hline
    exact absurd hstrict (by decide)

end Record

end Log

end Accounts
