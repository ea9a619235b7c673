import Accounts.Log.Logger
import Accounts.Proofs.Json.Ascii
import Accounts.Proofs.Log.Identity
import Accounts.Text.Split

/-!
One record is one line. Nothing in a record can end its line or bring a control character into it:
neither the message nor the names and values of the extras, at any depth, nor what exceptions say.
-/
namespace Accounts.Log

/-- Characters behind which some reader of text begins a new line. -/
def lineBreaks : List Char :=
  ['\n', '\u000B', '\u000C', '\r', '\u001C', '\u001D', '\u001E', '\u0085', '\u2028', '\u2029']

theorem notMem_lineBreaks {c : Char} (h : Json.IsVisible c) : c ∉ lineBreaks := by
  have hbreaks : lineBreaks.all (fun b => !decide (Json.IsVisible b)) = true := by decide
  intro hc
  have hbreak := List.all_eq_true.mp hbreaks c hc
  simp [h] at hbreak

namespace Record

theorem areVisible_line {r : Record} {line : List Char} (h : r.line = .ok line) :
    Json.AreVisible line := by
  obtain ⟨stamp, message, said, -, hmessage, hsaid, rfl⟩ := line_ok h
  exact Json.areVisible_print _ (isReadable_said hmessage hsaid)

/-- A line has only characters from the space to the tilde, and no line break of any kind. -/
theorem line_unbroken {r : Record} {line : List Char} (h : r.line = .ok line) :
    ∀ c ∈ line, 0x20 ≤ c.toNat ∧ c.toNat ≤ 0x7E ∧ c ∉ lineBreaks := by
  intro c hc
  have hvisible := areVisible_line h c hc
  exact ⟨hvisible.1, hvisible.2, notMem_lineBreaks hvisible⟩

/-- Controls and line breaks in the message, the logger, the level, the name of an extra, a key, a
text, an exception and bytes. -/
def hostile : Record :=
  reporting
    [("name", .text "app\r\nroot"), ("levelname", .text "IN\u0085FO"),
      ("msg", .text "%s\u2028\u007F"), ("args", .tuple [.text "a\nb\u0000"]),
      ("ke\u2029y", .dict [(.text "\n", .list [.text "\u001E😀", .bytes [10, 255]])]),
      ("why", .exception (.general "ValueError") [.text "x\n\u000B"])]
    (some (.chain [(.general "KeyError", [.text "é\n"])]))

/-- None of them is in the line. -/
theorem line_unbroken_hostile :
    hostile.message = .ok (Text.codePoints "a\nb\u0000\u2028\u007F") ∧
      ∃ line, hostile.line = .ok line ∧
        ∀ c ∈ line, 0x20 ≤ c.toNat ∧ c.toNat ≤ 0x7E ∧ c ∉ lineBreaks := by
  have hline : ∃ line, hostile.line = .ok line := ⟨_, rfl⟩
  obtain ⟨line, hline⟩ := hline
  exact ⟨rfl, line, hline, line_unbroken hline⟩

end Record

/-! ## Several lines -/

theorem areVisible_of_mem_lines {root : Level} {created : Moment} {entries : List Entry}
    {line : List Char} (h : line ∈ lines root created entries) : Json.AreVisible line := by
  obtain ⟨e, -, hemit⟩ := List.mem_filterMap.mp h
  split at hemit
  · next written hwritten =>
    subst hemit
    unfold Entry.emit at hwritten
    split at hwritten
    · split at hwritten
      · cases hwritten
      · split at hwritten
        · next hline =>
          cases hwritten
          exact Record.areVisible_line hline
        · cases hwritten
    · cases hwritten
  · cases hemit

/-- Written one under the other, the lines of the entries are found again. -/
theorem splitOn_lines {root : Level} {created : Moment} {entries : List Entry}
    (hne : lines root created entries ≠ []) :
    Text.splitOn '\n' (Text.joinWith '\n' (lines root created entries)) =
      lines root created entries := by
  refine Text.splitOn_joinWith hne fun line hline hbreak => ?_
  exact absurd (areVisible_of_mem_lines hline '\n' hbreak) (by decide)

end Accounts.Log
