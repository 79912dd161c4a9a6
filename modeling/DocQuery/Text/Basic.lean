/-!
# Text

A text is the list of its characters.

* `Text.cut?`: the text before and after the first place where a token occurs.
* `Text.between?`: the inner text of a text that starts and ends in a given way.
* `Text.lower`: upper-case letters of ASCII made lower-case, all else kept.
-/

namespace DocQuery

/-- A text, character by character. -/
abbrev Text := List Char

namespace Text

/-- What a text begins with, followed by the rest, is the text. -/
theorem eq_of_isPrefixOf? {start text rest : Text} (h : start.isPrefixOf? text = some rest) :
    start ++ rest = text := by
  induction start generalizing text with
  | nil => exact (Option.some.inj h).symm
  | cons c start ih =>
    cases text with
    | nil => cases h
    | cons d text =>
      change (if (c == d) = true then start.isPrefixOf? text else none) = some rest at h
      split at h
      · rename_i hcd
        rw [List.cons_append, ih h, eq_of_beq hcd]
      · cases h

/-- The text before and the text after the first occurrence of `token`. -/
def cut? (token : Text) : Text → Option (Text × Text)
  | [] => none
  | c :: rest =>
    match token.isPrefixOf? (c :: rest) with
    | some after => some ([], after)
    | none => (cut? token rest).map fun (before, after) => (c :: before, after)

/-- A text is what stands before the first occurrence of a token, the token and what stands
behind it. -/
theorem eq_of_cut? {token text before after : Text} (h : cut? token text = some (before, after)) :
    text = before ++ token ++ after := by
  induction text generalizing before with
  | nil => cases h
  | cons c rest ih =>
    rw [cut?] at h
    split at h
    · rename_i suffix hs
      cases h
      simpa using (eq_of_isPrefixOf? hs).symm
    · obtain ⟨⟨b, a⟩, hcut, heq⟩ := Option.map_eq_some_iff.mp h
      cases heq
      simp [ih hcut]

/-- Whether `token` occurs anywhere in the text. -/
def has (token text : Text) : Bool := (cut? token text).isSome

/-- The text that stands between `opening` and `closing`, if `text` is made of these three. -/
def between? (opening closing text : Text) : Option Text :=
  (opening.isPrefixOf? text).bind fun rest => closing.isSuffixOf? rest

/-- The text with the letters A to Z made lower-case. -/
def lower (text : Text) : Text := text.map Char.toLower

end Text

end DocQuery
