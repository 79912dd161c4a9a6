import DocQuery.Proofs.Literal.Word
import DocQuery.Proofs.Number.Grammar

/-!
# The grammar of stamps

* `IsField`, `WritesOption`: the texts of a number of a fixed width, and of a part that may be
  missing.
* `Stamp.Writes`: the texts of a stamp. `Clock.Writes`, `Seconds.Writes` and `Zone.Writes` are those
  of its parts.
* **`Stamp.read?_eq_some_iff`**: a stamp is read just from the texts that write it.
-/

namespace DocQuery

/-! ## Texts of stamps -/

/-- The text of a number from `low` to `high` in exactly `width` digits. -/
structure IsField (width low high n : Nat) (text : Text) : Prop where
  length : text.length = width
  digits : IsDigits text
  value : digitsValue text = n
  low : low ≤ n
  high : n ≤ high

/-- The texts of a part that may be missing, with a mark in front of it. -/
inductive WritesOption {α : Type} (mark : Text) (writes : α → Text → Prop) : Option α → Text → Prop
  | none : WritesOption mark writes none []
  | some {a : α} {text : Text} (h : writes a text) :
      WritesOption mark writes (some a) (mark ++ text)

/-- The text of the digits of a fraction, one or more of them. -/
def IsFraction (digits text : Text) : Prop := text = digits ∧ digits ≠ [] ∧ IsDigits digits

/-- The text of what may stand between a date and a time. -/
def IsSeparator (c : Char) (text : Text) : Prop := text = [c] ∧ (c = 'T' ∨ c = ' ')

/-- The texts of a zone: `Z`, or a sign with hours and minutes. -/
inductive Zone.Writes : Zone → Text → Prop
  | utc : Writes .utc ['Z']
  | offset {behind : Bool} {hours minutes : Nat} {h m : Text} (hhours : IsField 2 0 99 hours h)
      (hminutes : IsField 2 0 99 minutes m) :
      Writes (.offset behind hours minutes) ((if behind then '-' else '+') :: (h ++ ':' :: m))

/-- The texts of a second with an optional fraction. -/
inductive Seconds.Writes : Seconds → Text → Prop
  | parts {second : Nat} {fraction : Option Text} {s f : Text} (hsecond : IsField 2 0 59 second s)
      (hfraction : WritesOption ['.'] IsFraction fraction f) : Writes ⟨second, fraction⟩ (s ++ f)

/-- The texts of a time of day. -/
inductive Clock.Writes : Clock → Text → Prop
  | parts {hour minute : Nat} {seconds : Option Seconds} {zone : Option Zone} {h m s z : Text}
      (hhour : IsField 2 0 23 hour h) (hminute : IsField 2 0 59 minute m)
      (hseconds : WritesOption [':'] Seconds.Writes seconds s)
      (hzone : WritesOption [] Zone.Writes zone z) :
      Writes ⟨hour, minute, seconds, zone⟩ (h ++ ':' :: (m ++ (s ++ z)))

/-- The texts of a stamp. -/
inductive Stamp.Writes : Stamp → Text → Prop
  | parts {year month : Nat} {day : Option Nat} {separator : Option Char} {clock : Option Clock}
      {y m d s c : Text} (hyear : IsField 4 1000 2999 year y) (hmonth : IsField 2 1 12 month m)
      (hday : WritesOption ['-'] (IsField 2 1 31) day d)
      (hseparator : WritesOption [] IsSeparator separator s)
      (hclock : WritesOption [] Clock.Writes clock c) :
      Writes ⟨year, month, day, separator, clock⟩ (y ++ '-' :: (m ++ (d ++ (s ++ c))))

/-! ## Fields -/

section Field

variable {width low high n : Nat} {text t rest : Text}

theorem field?_eq_some_iff_isField :
    field? width low high text = some (n, rest) ↔
      ∃ t, IsField width low high n t ∧ text = t ++ rest := by
  rw [field?_eq_some_iff]
  constructor
  · rintro ⟨t, rfl, hlength, hdigits, hvalue, hlow, hhigh⟩
    exact ⟨t, ⟨hlength, hdigits, hvalue, hlow, hhigh⟩, rfl⟩
  · rintro ⟨t, h, rfl⟩
    exact ⟨t, rfl, h.length, h.digits, h.value, h.low, h.high⟩

theorem IsField.read? (h : IsField width low high n t) (rest : Text) :
    field? width low high (t ++ rest) = some (n, rest) :=
  field?_eq_some_iff_isField.mpr ⟨t, h, rfl⟩

theorem IsField.exists_cons (h : IsField (width + 1) low high n t) :
    ∃ c digits, t = c :: digits ∧ c.isDigit = true := by
  cases t with
  | nil => cases h.length
  | cons c digits => exact ⟨c, digits, rfl, h.digits c List.mem_cons_self⟩

theorem mark?_cons (c : Char) (rest : Text) : mark? c (c :: rest) = some rest :=
  mark?_eq_some_iff.mpr rfl

end Field

/-! ## Reading what is written -/

section Completeness

variable {t rest : Text}

theorem readFraction?_of_writes {fraction : Option Text}
    (h : WritesOption ['.'] IsFraction fraction t)
    (hrest : ∀ c ∈ rest.head?, c.isDigit = false ∧ c ≠ '.') :
    readFraction? (t ++ rest) = some (fraction, rest) := by
  cases h with
  | none =>
    cases rest with
    | nil => rfl
    | cons c rest =>
      unfold readFraction?
      split
      · rename_i heq
        cases heq
        exact absurd rfl (hrest '.' rfl).2
      · rfl
  | some h =>
    obtain ⟨rfl, hne, hdigits⟩ := h
    rw [List.append_assoc, List.singleton_append, readFraction?,
      span_isDigit hdigits fun c hc => (hrest c hc).1]
    simp [hne]

theorem readSeconds?_of_writes {seconds : Option Seconds}
    (h : WritesOption [':'] Seconds.Writes seconds t)
    (hrest : ∀ c ∈ rest.head?, c.isDigit = false ∧ c ≠ '.' ∧ c ≠ ':') :
    readSeconds? (t ++ rest) = some (seconds, rest) := by
  cases h with
  | none =>
    cases rest with
    | nil => rfl
    | cons c rest =>
      unfold readSeconds?
      split
      · rename_i heq
        cases heq
        exact absurd rfl (hrest ':' rfl).2.2
      · rfl
  | some h =>
    cases h with
    | parts hsecond hfraction =>
      rw [List.append_assoc, List.singleton_append, readSeconds?, List.append_assoc,
        hsecond.read?]
      have hread := readFraction?_of_writes hfraction fun c hc =>
        ⟨(hrest c hc).1, (hrest c hc).2.1⟩
      simp [hread]

theorem readZone?_of_writes {zone : Option Zone} (h : WritesOption [] Zone.Writes zone t) :
    readZone? t = some zone := by
  cases h with
  | none => rfl
  | some h =>
    cases h with
    | utc => rfl
    | @offset behind hours minutes h m hhours hminutes =>
      have hread (behind : Bool) :
          readOffset? behind (h ++ ':' :: m) = some (.offset behind hours minutes) := by
        have hminutes := hminutes.read? []
        rw [List.append_nil] at hminutes
        simp [readOffset?, hhours.read?, mark?_cons, hminutes]
      cases behind <;> simp [readZone?, hread]

theorem head?_of_writesZone {zone : Option Zone} (h : WritesOption [] Zone.Writes zone t) :
    ∀ c ∈ t.head?, c = 'Z' ∨ c = '+' ∨ c = '-' := by
  intro c hc
  cases h with
  | none => cases hc
  | some h =>
    cases h with
    | utc =>
      cases hc
      exact .inl rfl
    | @offset behind =>
      cases hc
      cases behind
      · exact .inr (.inl rfl)
      · exact .inr (.inr rfl)

theorem head?_of_writesClock {clock : Option Clock} (h : WritesOption [] Clock.Writes clock t) :
    ∀ c ∈ t.head?, c.isDigit = true := by
  intro c hc
  cases h with
  | none => cases hc
  | some h =>
    cases h with
    | parts hhour =>
      obtain ⟨d, digits, rfl, hd⟩ := hhour.exists_cons
      cases hc
      exact hd

theorem readClock?_of_writes {clock : Option Clock} (h : WritesOption [] Clock.Writes clock t) :
    readClock? t = some clock := by
  cases h with
  | none => rfl
  | some h =>
    cases h with
    | parts hhour hminute hseconds hzone =>
      have hread := readSeconds?_of_writes hseconds fun c hc => by
        rcases head?_of_writesZone hzone c hc with rfl | rfl | rfl <;> decide
      rw [List.nil_append]
      unfold readClock?
      split
      · rename_i heq
        simp at heq
      · simp [hhour.read?, mark?_cons, hminute.read?, hread, readZone?_of_writes hzone]

theorem readSeparator_of_writes {separator : Option Char}
    (h : WritesOption [] IsSeparator separator t) (hrest : ∀ c ∈ rest.head?, c.isDigit = true) :
    readSeparator (t ++ rest) = (separator, rest) := by
  cases h with
  | none =>
    cases rest with
    | nil => rfl
    | cons c rest =>
      unfold readSeparator
      split
      · rename_i heq
        cases heq
        exact absurd (hrest 'T' rfl) (by decide)
      · rename_i heq
        cases heq
        exact absurd (hrest ' ' rfl) (by decide)
      · rfl
  | some h => obtain ⟨rfl, rfl | rfl⟩ := h <;> rfl

theorem head?_of_writesSeparator {separator : Option Char}
    (h : WritesOption [] IsSeparator separator t) (hrest : ∀ c ∈ rest.head?, c.isDigit = true) :
    ∀ c ∈ (t ++ rest).head?, c ≠ '-' := by
  rintro c hc rfl
  cases h with
  | none => exact absurd (hrest '-' hc) (by decide)
  | some h => obtain ⟨rfl, rfl | rfl⟩ := h <;> cases hc

theorem readDay?_of_writes {day : Option Nat} (h : WritesOption ['-'] (IsField 2 1 31) day t)
    (hrest : ∀ c ∈ rest.head?, c ≠ '-') : readDay? (t ++ rest) = some (day, rest) := by
  cases h with
  | none =>
    cases rest with
    | nil => rfl
    | cons c rest =>
      unfold readDay?
      split
      · rename_i heq
        cases heq
        exact absurd rfl (hrest '-' rfl)
      · rfl
  | some h =>
    rw [List.append_assoc, List.singleton_append, readDay?, h.read?]
    rfl

/-- A stamp that is written is read. -/
theorem Stamp.Writes.read? {s : Stamp} (h : s.Writes t) : Stamp.read? t = some s := by
  cases h with
  | parts hyear hmonth hday hseparator hclock =>
    have hhead := head?_of_writesClock hclock
    have hread := readDay?_of_writes hday (head?_of_writesSeparator hseparator hhead)
    simp [Stamp.read?, hyear.read?, mark?_cons, hmonth.read?, hread,
      readSeparator_of_writes hseparator hhead, readClock?_of_writes hclock]

end Completeness

/-! ## Writing what is read -/

section Soundness

variable {text rest : Text}

theorem writes_of_readFraction? {fraction : Option Text}
    (h : readFraction? text = some (fraction, rest)) :
    ∃ t, WritesOption ['.'] IsFraction fraction t ∧ text = t ++ rest := by
  unfold readFraction? at h
  split at h
  · rename_i body
    simp only [List.span_eq_takeWhile_dropWhile] at h
    split at h
    · cases h
    · rename_i hne
      cases h
      refine ⟨_, .some ⟨rfl, by simpa using hne, isDigits_takeWhile body⟩, ?_⟩
      rw [List.append_assoc, List.takeWhile_append_dropWhile]
      rfl
  · cases h
    exact ⟨_, .none, rfl⟩

theorem writes_of_readSeconds? {seconds : Option Seconds}
    (h : readSeconds? text = some (seconds, rest)) :
    ∃ t, WritesOption [':'] Seconds.Writes seconds t ∧ text = t ++ rest := by
  unfold readSeconds? at h
  split at h
  · obtain ⟨⟨second, behind⟩, hsecond, h⟩ := Option.bind_eq_some_iff.mp h
    obtain ⟨⟨fraction, behind⟩, hfraction, h⟩ := Option.bind_eq_some_iff.mp h
    cases h
    obtain ⟨s, hs, rfl⟩ := field?_eq_some_iff_isField.mp hsecond
    obtain ⟨f, hf, rfl⟩ := writes_of_readFraction? hfraction
    exact ⟨_, .some (.parts hs hf), by simp⟩
  · cases h
    exact ⟨_, .none, rfl⟩

theorem writes_of_readOffset? {behind : Bool} {zone : Zone}
    (h : readOffset? behind text = some zone) :
    zone.Writes ((if behind then '-' else '+') :: text) := by
  unfold readOffset? at h
  obtain ⟨⟨hours, rest⟩, hhours, h⟩ := Option.bind_eq_some_iff.mp h
  obtain ⟨rest, hmark, h⟩ := Option.bind_eq_some_iff.mp h
  obtain ⟨⟨minutes, rest⟩, hminutes, h⟩ := Option.bind_eq_some_iff.mp h
  simp only at h
  split at h
  · rename_i hnil
    cases h
    obtain ⟨th, hth, rfl⟩ := field?_eq_some_iff_isField.mp hhours
    obtain rfl := mark?_eq_some_iff.mp hmark
    obtain ⟨tm, htm, rfl⟩ := field?_eq_some_iff_isField.mp hminutes
    rw [List.isEmpty_iff.mp hnil, List.append_nil]
    exact .offset hth htm
  · cases h

theorem writes_of_readZone? {zone : Option Zone} (h : readZone? text = some zone) :
    WritesOption [] Zone.Writes zone text := by
  unfold readZone? at h
  split at h
  · cases h
    exact .none
  · cases h
    exact .some .utc
  · obtain ⟨zone, hzone, rfl⟩ := Option.map_eq_some_iff.mp h
    exact .some (writes_of_readOffset? hzone)
  · obtain ⟨zone, hzone, rfl⟩ := Option.map_eq_some_iff.mp h
    exact .some (writes_of_readOffset? hzone)
  · cases h

theorem writes_of_readClock? {clock : Option Clock} (h : readClock? text = some clock) :
    WritesOption [] Clock.Writes clock text := by
  unfold readClock? at h
  split at h
  · cases h
    exact .none
  · obtain ⟨⟨hour, rest⟩, hhour, h⟩ := Option.bind_eq_some_iff.mp h
    obtain ⟨rest, hmark, h⟩ := Option.bind_eq_some_iff.mp h
    obtain ⟨⟨minute, rest⟩, hminute, h⟩ := Option.bind_eq_some_iff.mp h
    obtain ⟨⟨seconds, rest⟩, hseconds, h⟩ := Option.bind_eq_some_iff.mp h
    obtain ⟨zone, hzone, h⟩ := Option.bind_eq_some_iff.mp h
    cases h
    obtain ⟨th, hth, rfl⟩ := field?_eq_some_iff_isField.mp hhour
    obtain rfl := mark?_eq_some_iff.mp hmark
    obtain ⟨tm, htm, rfl⟩ := field?_eq_some_iff_isField.mp hminute
    obtain ⟨ts, hts, rfl⟩ := writes_of_readSeconds? hseconds
    exact .some (.parts hth htm hts (writes_of_readZone? hzone))

theorem writes_of_readSeparator {separator : Option Char}
    (h : readSeparator text = (separator, rest)) :
    ∃ t, WritesOption [] IsSeparator separator t ∧ text = t ++ rest := by
  unfold readSeparator at h
  split at h
  · cases h
    exact ⟨_, .some ⟨rfl, .inl rfl⟩, rfl⟩
  · cases h
    exact ⟨_, .some ⟨rfl, .inr rfl⟩, rfl⟩
  · cases h
    exact ⟨_, .none, rfl⟩

theorem writes_of_readDay? {day : Option Nat} (h : readDay? text = some (day, rest)) :
    ∃ t, WritesOption ['-'] (IsField 2 1 31) day t ∧ text = t ++ rest := by
  unfold readDay? at h
  split at h
  · obtain ⟨⟨n, behind⟩, hday, h⟩ := Option.map_eq_some_iff.mp h
    cases h
    obtain ⟨t, ht, rfl⟩ := field?_eq_some_iff_isField.mp hday
    exact ⟨_, .some ht, rfl⟩
  · cases h
    exact ⟨_, .none, rfl⟩

/-- **A stamp is read just from the texts that write it.** -/
theorem Stamp.read?_eq_some_iff {s : Stamp} : Stamp.read? text = some s ↔ s.Writes text := by
  refine ⟨fun h => ?_, Stamp.Writes.read?⟩
  unfold Stamp.read? at h
  obtain ⟨⟨year, rest⟩, hyear, h⟩ := Option.bind_eq_some_iff.mp h
  obtain ⟨rest, hmark, h⟩ := Option.bind_eq_some_iff.mp h
  obtain ⟨⟨month, rest⟩, hmonth, h⟩ := Option.bind_eq_some_iff.mp h
  obtain ⟨⟨day, rest⟩, hday, h⟩ := Option.bind_eq_some_iff.mp h
  cases hseparator : readSeparator rest with
  | mk separator behind =>
    simp only [hseparator] at h
    obtain ⟨clock, hclock, h⟩ := Option.bind_eq_some_iff.mp h
    cases h
    obtain ⟨y, hy, rfl⟩ := field?_eq_some_iff_isField.mp hyear
    obtain rfl := mark?_eq_some_iff.mp hmark
    obtain ⟨m, hm, rfl⟩ := field?_eq_some_iff_isField.mp hmonth
    obtain ⟨d, hd, rfl⟩ := writes_of_readDay? hday
    obtain ⟨t, ht, rfl⟩ := writes_of_readSeparator hseparator
    exact .parts hy hm hd ht (writes_of_readClock? hclock)

end Soundness

end DocQuery
