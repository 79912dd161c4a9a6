import DocQuery.Argument.Sort
import DocQuery.Proofs.Text.Split
import Mathlib.Data.List.Forall2

/-!
# Sort keys as they are written

* `SortKey.written`, `SortKey.writtenList`: a key behind the sign of its direction, and keys with
  commas between them.
* `SortKey.Writes`, **`SortKey.parse_eq_iff`**: the texts of a key, which are one more if it is
  ascending.
* `SortKey.parseList?_eq_some_iff`: the keys of a value are those of its entries.
* **`SortKey.parseList?_written`**: keys are read back from what is written.
-/

namespace DocQuery

/-- The sign of a direction. -/
def Direction.sign : Direction → Char
  | ascending => '+'
  | descending => '-'

namespace SortKey

variable {key : SortKey} {keys : List SortKey} {text value : Text}

/-! ## Single keys -/

/-- A key as it is written, its field behind the sign of its direction. -/
def written (key : SortKey) : Text := key.direction.sign :: key.field

/-- The texts of a key: its field behind the sign of its direction, or the field by itself if it
does not begin with a sign and the direction is ascending. -/
inductive Writes : SortKey → Text → Prop
  | signed (key : SortKey) : Writes key key.written
  | plain {field : Text} (h : ∀ direction : Direction, field.head? ≠ some direction.sign) :
      Writes ⟨field, .ascending⟩ field

theorem parse_written (key : SortKey) : parse key.written = key := by
  obtain ⟨field, direction⟩ := key
  cases direction <;> rfl

/-- **A text is read as the key that it writes.** One sign is taken from it, even in front of
another one. -/
theorem parse_eq_iff : parse text = key ↔ key.Writes text := by
  constructor
  · rintro rfl
    unfold parse
    split
    · exact .signed ⟨_, .ascending⟩
    · exact .signed ⟨_, .descending⟩
    · rename_i hplus hminus
      refine .plain fun direction hhead => ?_
      obtain ⟨field, rfl⟩ := List.head?_eq_some_iff.mp hhead
      cases direction with
      | ascending => exact hplus field rfl
      | descending => exact hminus field rfl
  · intro h
    cases h with
    | signed => exact parse_written key
    | plain hhead =>
      unfold parse
      split
      · exact absurd rfl (hhead .ascending)
      · exact absurd rfl (hhead .descending)
      · rfl

/-- A key has no comma in its field if its text has none. -/
theorem Writes.comma_not_mem (h : key.Writes text) (htext : ',' ∉ text) : ',' ∉ key.field := by
  cases h with
  | signed => exact fun hmem => htext (List.mem_cons_of_mem _ hmem)
  | plain => exact htext

/-! ## Lists of keys -/

/-- Keys as they are written, with commas between them. -/
def writtenList (keys : List SortKey) : Text := [','].intercalate (keys.map written)

theorem comma_not_mem_written (h : ',' ∉ key.field) : ',' ∉ key.written := by
  have hsign : ∀ direction : Direction, ',' ≠ direction.sign := by
    rintro (_ | _) <;> decide
  exact List.not_mem_cons_of_ne_of_not_mem (hsign key.direction) h

theorem writtenList_ne_nil (hne : keys ≠ []) : writtenList keys ≠ [] := by
  obtain ⟨key, rest, rfl⟩ := List.exists_cons_of_ne_nil hne
  cases rest with
  | nil => simp [writtenList, written]
  | cons next rest => simp [writtenList, written]

/-- **The keys of a value** are those that its entries write, in order. -/
theorem parseList?_eq_some_iff :
    parseList? value = some keys ↔
      value ≠ [] ∧ List.Forall₂ (fun entry key => Writes key entry) (value.splitOn ',') keys := by
  simp only [← parse_eq_iff]
  rw [← List.forall₂_map_left_iff, List.forall₂_eq_eq_eq, parseList?,
    Option.ite_none_left_eq_some, List.isEmpty_iff, Option.some.injEq]

theorem parseList?_writtenList (hne : keys ≠ []) (h : ∀ key ∈ keys, ',' ∉ key.field) :
    parseList? (writtenList keys) = some keys := by
  have hcomma : ∀ entry ∈ keys.map written, ',' ∉ entry :=
    List.forall_mem_map.mpr fun key hkey => comma_not_mem_written (h key hkey)
  have hsplit : (writtenList keys).splitOn ',' = keys.map written :=
    List.splitOn_intercalate ',' hcomma (by simpa using hne)
  rw [parseList?_eq_some_iff, hsplit, List.forall₂_map_left_iff, List.forall₂_same]
  exact ⟨writtenList_ne_nil hne, fun key _ => .signed key⟩

/-- **Lists of keys are read back.** Keys without commas in their fields are what is read from their
written form, signs at the front of their fields included. A value has one key for each entry
between commas unless it is empty, and these keys are read back, too. -/
theorem parseList?_written :
    (∀ keys : List SortKey, keys ≠ [] → (∀ key ∈ keys, ',' ∉ key.field) →
      parseList? (writtenList keys) = some keys) ∧
      ∀ value : Text, value ≠ [] → ∃ keys, parseList? value = some keys ∧
        List.Forall₂ (fun entry key => Writes key entry) (value.splitOn ',') keys ∧
          parseList? (writtenList keys) = some keys := by
  refine ⟨fun keys => parseList?_writtenList, fun value hvalue => ?_⟩
  have hread : parseList? value = some ((value.splitOn ',').map parse) := by
    rw [parseList?, if_neg (by simpa using hvalue)]
  have hne : (value.splitOn ',').map parse ≠ [] := by simp
  have hcomma : ∀ key ∈ (value.splitOn ',').map parse, ',' ∉ key.field := by
    refine List.forall_mem_map.mpr fun entry hentry => ?_
    exact (parse_eq_iff.mp rfl).comma_not_mem (Text.not_mem_of_mem_splitOn hentry)
  exact ⟨_, hread, (parseList?_eq_some_iff.mp hread).2, parseList?_writtenList hne hcomma⟩

/-- A field without characters and fields that begin with signs. -/
theorem parseList?_written_signs :
    parseList? (writtenList
        [⟨[], .descending⟩, ⟨"+a".toList, .descending⟩, ⟨"-".toList, .ascending⟩]) =
      some [⟨[], .descending⟩, ⟨"+a".toList, .descending⟩, ⟨"-".toList, .ascending⟩] ∧
      ∃ keys, parseList? ",--b".toList = some keys ∧ parseList? (writtenList keys) = some keys := by
  obtain ⟨hwritten, hread⟩ := parseList?_written
  obtain ⟨keys, hkeys, -, hagain⟩ := hread ",--b".toList (by decide)
  exact ⟨hwritten _ (by decide) (by decide), keys, hkeys, hagain⟩

end SortKey

end DocQuery
