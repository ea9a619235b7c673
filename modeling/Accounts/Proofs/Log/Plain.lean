import Accounts.Proofs.Log.Template

/-!
Plain items: nothing, truth values, whole numbers and texts, and what is built from them with lists,
tuples and dictionaries that have texts for keys. They come back from JSON as they went in, but for
tuples, which come back as lists.
-/
namespace Accounts.Log.Item

/-- Most digits that a whole number is written or read with. -/
def digitLimit : Nat := 4300

/-- The number is not too long to be written. -/
def isWritable (n : Int) : Bool := (Text.decimal n.natAbs).length ≤ digitLimit

/-- Keys that do not find each other, as those of a dictionary are. -/
def AreDistinct (keys : List Item) : Prop := keys.Pairwise fun k l => l.sameKey k = false

instance (keys : List Item) : Decidable (AreDistinct keys) :=
  inferInstanceAs (Decidable (keys.Pairwise _))

mutual

def isPlain : Item → Bool
  | .atom .null | .atom (.bool _) | .atom (.text _) => true
  | .atom (.int n) => isWritable n
  | .list items | .tuple items => arePlain items
  | .dict entries => decide (AreDistinct (entries.map (·.1))) && holdPlain entries
  | _ => false

def arePlain : List Item → Bool
  | [] => true
  | item :: items => item.isPlain && arePlain items

def holdPlain : List (Item × Item) → Bool
  | [] => true
  | (.atom (.text _), item) :: entries => item.isPlain && holdPlain entries
  | _ :: _ => false

end

mutual

/-- The item with lists in place of tuples. -/
def untupled : Item → Item
  | .list items | .tuple items => .list (untupledItems items)
  | .dict entries => .dict (untupledEntries entries)
  | item => item

def untupledItems : List Item → List Item
  | [] => []
  | item :: items => item.untupled :: untupledItems items

def untupledEntries : List (Item × Item) → List (Item × Item)
  | [] => []
  | (key, item) :: entries => (key, item.untupled) :: untupledEntries entries

end

/-- The text of code points that are all characters. -/
def textOf? (codePoints : List Nat) : Option String :=
  if codePoints.all fun c => decide c.isValidChar then
    some (String.ofList (codePoints.map Char.ofNat))
  else none

mutual

/-- The item that a JSON value stands for, if its numbers are whole and its texts are characters. A
later member of an object replaces an earlier one of that name. -/
def ofJson? : Json → Option Item
  | .null => some .null
  | .bool b => some (.atom (.bool b))
  | .number written => ((Json.number written).int?.filter isWritable).map int
  | .text codePoints => (textOf? codePoints).map text
  | .array items => (ofJsonItems? items).map .list
  | .object members => (ofJsonMembers? members).map fun es => .dict (ofEntries es)

def ofJsonItems? : List Json → Option (List Item)
  | [] => some []
  | j :: js =>
    match ofJson? j, ofJsonItems? js with
    | some item, some items => some (item :: items)
    | _, _ => none

def ofJsonMembers? : List (List Nat × Json) → Option (List (Item × Item))
  | [] => some []
  | (name, j) :: members =>
    match textOf? name, ofJson? j, ofJsonMembers? members with
    | some name, some item, some entries => some ((text name, item) :: entries)
    | _, _, _ => none

end

/-! ## Texts and dictionaries -/

theorem textOf?_codePoints (s : String) : textOf? (Text.codePoints s) = some s := by
  have hvalid : (Text.codePoints s).all (fun c => decide c.isValidChar) = true := by
    rw [List.all_eq_true]
    intro n hn
    obtain ⟨c, -, rfl⟩ := List.mem_map.mp hn
    exact decide_eq_true c.valid
  have hchars : (Text.codePoints s).map Char.ofNat = s.toList := by
    rw [Text.codePoints, List.map_map]
    exact List.map_id'' Char.ofNat_toNat s.toList
  rw [textOf?, if_pos hvalid, hchars, String.ofList_toList]

theorem setEntry_of_distinct {key value : Item} {entries : List (Item × Item)}
    (h : ∀ e ∈ entries, key.sameKey e.1 = false) :
    setEntry key value entries = entries ++ [(key, value)] := by
  induction entries with
  | nil => rfl
  | cons e entries ih =>
    obtain ⟨he, hentries⟩ := List.forall_mem_cons.mp h
    rw [setEntry, if_neg (by simp [he]), ih hentries, List.cons_append]

/-- Entries of distinct keys are set one behind the other. -/
theorem foldl_setEntry {entries : List (Item × Item)} (before : List (Item × Item))
    (h : AreDistinct ((before ++ entries).map (·.1))) :
    entries.foldl (fun es e => setEntry e.1 e.2 es) before = before ++ entries := by
  induction entries generalizing before with
  | nil => exact (List.append_nil before).symm
  | cons e entries ih =>
    have hfresh : ∀ d ∈ before, e.1.sameKey d.1 = false := by
      intro d hd
      rw [AreDistinct, List.map_append, List.pairwise_append] at h
      exact h.2.2 d.1 (List.mem_map_of_mem hd) e.1 (List.mem_map_of_mem List.mem_cons_self)
    have hmoved : before ++ e :: entries = (before ++ [e]) ++ entries := by simp
    rw [hmoved] at h ⊢
    rw [List.foldl_cons, setEntry_of_distinct hfresh]
    exact ih (before ++ [e]) h

theorem ofEntries_of_distinct {entries : List (Item × Item)}
    (h : AreDistinct (entries.map (·.1))) : ofEntries entries = entries := foldl_setEntry [] h

theorem untupledEntries_eq_map (entries : List (Item × Item)) :
    untupledEntries entries = entries.map fun e => (e.1, e.2.untupled) := by
  induction entries with
  | nil => rfl
  | cons e entries ih => rw [untupledEntries, ih, List.map_cons]

theorem keys_untupledEntries (entries : List (Item × Item)) :
    (untupledEntries entries).map (·.1) = entries.map (·.1) := by
  rw [untupledEntries_eq_map, List.map_map]
  rfl

/-! ## Back and forth -/

/-- The JSON of an item can be printed, is read as it was printed, and stands for the item. -/
structure ReadsBack (item : Item) (j : Json) : Prop where
  written : item.json = .ok j
  readable : j.IsReadable
  joined : j.joined = j
  read : ofJson? j = some item.untupled

structure ItemsReadBack (items : List Item) (js : List Json) : Prop where
  written : jsonItems items = .ok js
  readable : Json.AreReadable js
  joined : Json.joinedItems js = js
  read : ofJsonItems? js = some (untupledItems items)

structure EntriesReadBack (entries : List (Item × Item)) (members : List (List Nat × Json)) :
    Prop where
  written : jsonEntries entries = .ok members
  readable : Json.HasReadable members
  joined : Json.joinedMembers members = members
  read : ofJsonMembers? members = some (untupledEntries entries)

theorem readsBack_int {n : Int} (h : isWritable n = true) : ReadsBack (int n) (.int n) where
  written := rfl
  readable := .inl (Json.isNumber_decimalInt n)
  joined := rfl
  read := by
    have hread : (Json.number (Text.decimalInt n)).int? = some n := Json.int?_int n
    rw [Json.int, ofJson?, hread, Option.filter_some, if_pos h]
    rfl

theorem readsBack_text (s : String) : ReadsBack (text s) (.str s) where
  written := rfl
  readable := Json.inRange_codePoints s
  joined := congrArg Json.text (Json.joinedText_codePoints s)
  read := by
    rw [Json.str, ofJson?, textOf?_codePoints]
    rfl

theorem ItemsReadBack.list {items : List Item} {js : List Json} (h : ItemsReadBack items js) :
    ReadsBack (.list items) (.array js) where
  written := by rw [json, h.written]; rfl
  readable := h.readable
  joined := by rw [Json.joined, h.joined]
  read := by rw [ofJson?, h.read]; rfl

/-- A tuple is written and read as the list of its items. -/
theorem ItemsReadBack.tuple {items : List Item} {js : List Json} (h : ItemsReadBack items js) :
    ReadsBack (.tuple items) (.array js) :=
  ⟨h.list.written, h.list.readable, h.list.joined, h.list.read⟩

theorem EntriesReadBack.dict {entries : List (Item × Item)} {members : List (List Nat × Json)}
    (h : EntriesReadBack entries members) (hdistinct : AreDistinct (entries.map (·.1))) :
    ReadsBack (.dict entries) (.object members) where
  written := by rw [json, h.written]; rfl
  readable := h.readable
  joined := by rw [Json.joined, h.joined]
  read := by
    have hentries : ofEntries (untupledEntries entries) = untupledEntries entries :=
      ofEntries_of_distinct (by rw [keys_untupledEntries]; exact hdistinct)
    rw [ofJson?, h.read, Option.map_some, hentries]
    rfl

theorem ReadsBack.cons {item : Item} {j : Json} {items : List Item} {js : List Json}
    (h : ReadsBack item j) (hs : ItemsReadBack items js) :
    ItemsReadBack (item :: items) (j :: js) where
  written := by rw [jsonItems, h.written, hs.written]
  readable := ⟨h.readable, hs.readable⟩
  joined := by rw [Json.joinedItems, h.joined, hs.joined]
  read := by rw [ofJsonItems?, h.read, hs.read]; rfl

theorem ReadsBack.entry {item : Item} {j : Json} {entries : List (Item × Item)}
    {members : List (List Nat × Json)} (name : String) (h : ReadsBack item j)
    (hs : EntriesReadBack entries members) :
    EntriesReadBack ((text name, item) :: entries) ((Text.codePoints name, j) :: members) where
  written := by rw [jsonEntries, h.written, hs.written]; rfl
  readable := ⟨Json.inRange_codePoints name, h.readable, hs.readable⟩
  joined := by rw [Json.joinedMembers, Json.joinedText_codePoints, h.joined, hs.joined]
  read := by rw [ofJsonMembers?, textOf?_codePoints, h.read, hs.read]; rfl

mutual

/-- A plain item can be written, and comes back. -/
theorem exists_readsBack (item : Item) (h : item.isPlain = true) : ∃ j, ReadsBack item j := by
  cases item with
  | atom a =>
    cases a with
    | null => exact ⟨.null, rfl, trivial, rfl, rfl⟩
    | bool b => exact ⟨.bool b, rfl, trivial, rfl, rfl⟩
    | int n => exact ⟨_, readsBack_int h⟩
    | text s => exact ⟨_, readsBack_text s⟩
    | double x => cases h
    | instant seconds => cases h
  | list items =>
    obtain ⟨js, hjs⟩ := exists_itemsReadBack items h
    exact ⟨_, hjs.list⟩
  | tuple items =>
    obtain ⟨js, hjs⟩ := exists_itemsReadBack items h
    exact ⟨_, hjs.tuple⟩
  | dict entries =>
    rw [isPlain, Bool.and_eq_true] at h
    obtain ⟨members, hmembers⟩ := exists_entriesReadBack entries h.2
    exact ⟨_, hmembers.dict (of_decide_eq_true h.1)⟩
  | bytes bs => cases h
  | time t => cases h
  | kind k => cases h
  | exception c arguments => cases h
  | user email password metadata => cases h
  | callable => cases h

theorem exists_itemsReadBack (items : List Item) (h : arePlain items = true) :
    ∃ js, ItemsReadBack items js := by
  match items, h with
  | [], _ => exact ⟨[], rfl, trivial, rfl, rfl⟩
  | item :: items, h =>
    rw [arePlain, Bool.and_eq_true] at h
    obtain ⟨j, hj⟩ := exists_readsBack item h.1
    obtain ⟨js, hjs⟩ := exists_itemsReadBack items h.2
    exact ⟨_, hj.cons hjs⟩

theorem exists_entriesReadBack (entries : List (Item × Item)) (h : holdPlain entries = true) :
    ∃ members, EntriesReadBack entries members := by
  match entries, h with
  | [], _ => exact ⟨[], rfl, trivial, rfl, rfl⟩
  | (.atom (.text name), item) :: entries, h =>
    rw [holdPlain, Bool.and_eq_true] at h
    obtain ⟨j, hj⟩ := exists_readsBack item h.1
    obtain ⟨members, hmembers⟩ := exists_entriesReadBack entries h.2
    exact ⟨_, hj.entry name hmembers⟩

end

end Accounts.Log.Item
