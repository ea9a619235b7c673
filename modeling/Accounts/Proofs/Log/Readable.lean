import Accounts.Proofs.Log.Template
import Accounts.Proofs.Number.Written

/-!
Whatever is handed to the log: if it has a JSON form, that form is read back as it was printed.
-/
namespace Accounts.Log

theorem map_eq_ok {ε α β : Type} {f : α → β} {x : Except ε α} {b : β} (h : x.map f = .ok b) :
    ∃ a, x = .ok a ∧ f a = b := by
  cases x with
  | error e => cases h
  | ok a => exact ⟨a, rfl, Except.ok.inj h⟩

namespace Item

open Json (IsNumeral IsNumber)

/-! ## Numbers and names -/

/-- A finite double is written as a number. -/
theorem isNumber_doubleWord {x : Double} {s : Bool} {m : Nat} {e : Int}
    (hx : x.magnitude = .finite s m e) : IsNumber (doubleWord x) := by
  have hword : doubleWord x = Written.shortest x := by simp only [doubleWord, hx]
  exact hword ▸ Written.isNumber_shortest hx

/-- Every other double is written as a word. -/
theorem doubleWord_mem_doubleWords {x : Double} (hx : ∀ s m e, x.magnitude ≠ .finite s m e) :
    doubleWord x ∈ Json.doubleWords := by
  unfold doubleWord
  split
  · decide
  · decide
  · decide
  · next hnan hminus hplus =>
    cases h : x.magnitude with
    | undefined => exact absurd h hnan
    | infinite s =>
      cases s with
      | true => exact absurd h hminus
      | false => exact absurd h hplus
    | finite s m e => exact absurd h (hx s m e)

/-- Also the doubles that are no numbers have words that the reader takes. -/
theorem isNumeral_doubleWord (x : Double) : IsNumeral (doubleWord x) := by
  by_cases hx : ∃ s m e, x.magnitude = .finite s m e
  · obtain ⟨s, m, e, hx⟩ := hx
    exact .inl (isNumber_doubleWord hx)
  · exact .inr (doubleWord_mem_doubleWords fun s m e h => hx ⟨s, m, e, h⟩)

theorem inRange_memberName {item : Item} {name : List Nat} (h : item.memberName = .ok name) :
    Json.InRange name := by
  unfold memberName at h
  split at h <;> cases h
  all_goals first
    | exact Json.inRange_codePoints _
    | exact Percent.inRange_codes _

/-! ## Containers -/

theorem jsonItems_cons_ok {item : Item} {items : List Item} {js : List Json}
    (h : jsonItems (item :: items) = .ok js) :
    ∃ j rest, item.json = .ok j ∧ jsonItems items = .ok rest ∧ js = j :: rest := by
  rw [jsonItems] at h
  split at h <;> cases h
  next j rest hj hrest => exact ⟨j, rest, hj, hrest, rfl⟩

theorem jsonEntries_cons_ok {key item : Item} {entries : List (Item × Item)}
    {members : List (List Nat × Json)} (h : jsonEntries ((key, item) :: entries) = .ok members) :
    ∃ name j rest, key.memberName = .ok name ∧ item.json = .ok j ∧
      jsonEntries entries = .ok rest ∧ members = (name, j) :: rest := by
  rw [jsonEntries] at h
  split at h <;> cases h
  next name j rest hname hj hrest => exact ⟨name, j, rest, hname, hj, hrest, rfl⟩

mutual

/-- Numbers are numerals, names and texts are code points, and what JSON does not know is a text. -/
theorem isReadable_json (item : Item) {j : Json} (h : item.json = .ok j) : j.IsReadable := by
  cases item with
  | atom a =>
    cases a with
    | null => cases h; trivial
    | bool b => cases h; trivial
    | int n => cases h; exact .inl (Json.isNumber_decimalInt n)
    | double x => cases h; exact isNumeral_doubleWord x
    | text s => cases h; exact Json.inRange_codePoints s
    | instant seconds => cases h; exact Percent.inRange_codes _
  | list items =>
    obtain ⟨js, hjs, rfl⟩ := map_eq_ok h
    exact areReadable_jsonItems items hjs
  | tuple items =>
    obtain ⟨js, hjs, rfl⟩ := map_eq_ok h
    exact areReadable_jsonItems items hjs
  | dict entries =>
    obtain ⟨members, hmembers, rfl⟩ := map_eq_ok h
    exact hasReadable_jsonEntries entries hmembers
  | kind k => cases h; exact Json.inRange_codePoints _
  | bytes bs => cases h; exact Percent.inRange_codes _
  | time t => cases h; exact Percent.inRange_codes _
  | exception c arguments => cases h; exact Percent.inRange_codes _
  | user email password metadata => cases h; exact Percent.inRange_codes _
  | callable => cases h; exact Percent.inRange_codes _

theorem areReadable_jsonItems (items : List Item) {js : List Json}
    (h : jsonItems items = .ok js) : Json.AreReadable js := by
  match items with
  | [] => cases h; trivial
  | item :: items =>
    obtain ⟨j, rest, hj, hrest, rfl⟩ := jsonItems_cons_ok h
    exact ⟨isReadable_json item hj, areReadable_jsonItems items hrest⟩

theorem hasReadable_jsonEntries (entries : List (Item × Item)) {members : List (List Nat × Json)}
    (h : jsonEntries entries = .ok members) : Json.HasReadable members := by
  match entries with
  | [] => cases h; trivial
  | (key, item) :: entries =>
    obtain ⟨name, j, rest, hname, hj, hrest, rfl⟩ := jsonEntries_cons_ok h
    exact ⟨inRange_memberName hname, isReadable_json item hj, hasReadable_jsonEntries entries hrest⟩

end

end Item

end Accounts.Log
