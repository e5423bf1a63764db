import Mathlib.Data.List.Infix
import Mathlib.Data.List.TakeDrop
import Mathlib.Data.List.TakeWhile
import WireContract.Proofs.BodyPaths
import WireContract.Text.LeadingNumber

namespace WireContract
namespace Text

structure Longest {α : Type} (Spells : List Char → α → Prop) (text piece : List Char) (x : α) : Prop where
  starts : piece <+: text
  spells : Spells piece x
  longest : ∀ other y, other <+: text → Spells other y → other.length ≤ piece.length

/-- A reader that goes by the longest piece, which is the one that `span` cuts off, and finds nothing only where
no piece spells anything. -/
structure ReadsLongest {α : Type} (read : List Char → Option α) (span : List Char → List Char)
    (Spells : List Char → α → Prop) : Prop where
  found : ∀ text x, read text = some x → Longest Spells text (span text) x
  missing : ∀ text, read text = none → ∀ piece x, piece <+: text → ¬ Spells piece x

def ReadsWhole {α : Type} (read : List Char → Option α) (Spells : List Char → α → Prop) : Prop :=
  ∀ piece x, Spells piece x → read piece = some x

theorem Longest.unique {α : Type} {Spells : List Char → α → Prop} {text piece other : List Char} {x y : α}
    (longest : Longest Spells text piece x) (again : Longest Spells text other y) : piece = other := by
  have le := again.longest piece x longest.starts longest.spells
  have ge := longest.longest other y again.starts again.spells
  exact (List.prefix_of_prefix_length_le longest.starts again.starts le).eq_of_length
    (Nat.le_antisymm le ge)

namespace ReadsLongest

variable {α : Type} {read : List Char → Option α} {span : List Char → List Char}
  {Spells : List Char → α → Prop} (reads : ReadsLongest read span Spells)

include reads

theorem eq_none_iff (text : List Char) :
    read text = none ↔ ∀ piece x, piece <+: text → ¬ Spells piece x := by
  refine ⟨reads.missing text, fun missing => ?_⟩
  cases isRead : read text with
  | none => rfl
  | some x =>
    have longest := reads.found text x isRead
    exact absurd longest.spells (missing _ x longest.starts)

theorem found_iff (whole : ReadsWhole read Spells) (text : List Char) (x : α) :
    read text = some x ↔ ∃ piece, Longest Spells text piece x := by
  refine ⟨fun isRead => ⟨_, reads.found text x isRead⟩, ?_⟩
  rintro ⟨piece, longest⟩
  cases isRead : read text with
  | none => exact absurd longest.spells (reads.missing text isRead piece x longest.starts)
  | some y =>
    have again := reads.found text y isRead
    have isX := whole piece x longest.spells
    rw [longest.unique again, whole _ y again.spells] at isX
    exact isX

end ReadsLongest

def IsDigits (text : List Char) : Prop := text ≠ [] ∧ ∀ c ∈ text, Decimal.isDigit c = true

inductive Signed {α : Type} [Neg α] (Spells : List Char → α → Prop) : List Char → α → Prop
  | unsigned {text : List Char} {x : α} (spells : Spells text x) : Signed Spells text x
  | plus {text : List Char} {x : α} (spells : Spells text x) : Signed Spells ('+' :: text) x
  | minus {text : List Char} {x : α} (spells : Spells text x) : Signed Spells ('-' :: text) (-x)

def SpellsNatural (text : List Char) (n : Int) : Prop := IsDigits text ∧ n = Decimal.natOfDigits text

inductive SpellsPower : List Char → Int → Prop
  | absent : SpellsPower [] 0
  | marked {mark : Char} {text : List Char} {n : Int} (isMark : mark = 'e' ∨ mark = 'E')
      (integer : Signed SpellsNatural text n) : SpellsPower (mark :: text) n

/-- How a double without a sign is spelt: as `Infinity`, or by digits and an exponent, perhaps with a point
behind the digits, between them or before them. -/
inductive SpellsMagnitude : List Char → Float → Prop
  | infinity : SpellsMagnitude "Infinity".toList Decimal.infinity
  | whole {whole power : List Char} {exponent : Int} (isNumber : IsDigits whole)
      (isPower : SpellsPower power exponent) :
      SpellsMagnitude (whole ++ power) (Decimal.nearestFloat (Decimal.natOfDigits whole) exponent)
  | pointed {whole places power : List Char} {exponent : Int} (isNumber : IsDigits (whole ++ places))
      (isPower : SpellsPower power exponent) :
      SpellsMagnitude (whole ++ '.' :: (places ++ power))
        (Decimal.nearestFloat (Decimal.natOfDigits (whole ++ places)) (exponent - places.length))

def SpellsNumber : List Char → Float → Prop := Signed SpellsMagnitude

section Signs

variable {α : Type} [Neg α] {Spells : List Char → α → Prop} {read : List Char → Option α}
  {span : List Char → List Char}

def signed (read : List Char → Option α) : List Char → Option α
  | '-' :: rest => (read rest).map fun x => -x
  | '+' :: rest => read rest
  | rest => read rest

def signedSpan (span : List Char → List Char) : List Char → List Char
  | '-' :: rest => '-' :: span rest
  | '+' :: rest => '+' :: span rest
  | rest => span rest

def Bare (Spells : List Char → α → Prop) : Prop :=
  ∀ piece x, Spells piece x → ∃ c rest, piece = c :: rest ∧ c ≠ '-' ∧ c ≠ '+'

theorem Bare.behind_sign (bare : Bare Spells) {sign : Char} (isSign : sign = '-' ∨ sign = '+')
    {text piece : List Char} {x : α} (starts : piece <+: sign :: text) (spells : Signed Spells piece x) :
    ∃ rest y, piece = sign :: rest ∧ rest <+: text ∧ Spells rest y := by
  cases spells with
  | unsigned spells =>
    obtain ⟨c, rest, rfl, noMinus, noPlus⟩ := bare _ _ spells
    have same : c = sign := (List.cons_prefix_cons.mp starts).1
    exact absurd (same ▸ isSign) (not_or.mpr ⟨noMinus, noPlus⟩)
  | plus spells =>
    obtain ⟨rfl, inner⟩ := List.cons_prefix_cons.mp starts
    exact ⟨_, _, rfl, inner, spells⟩
  | minus spells =>
    obtain ⟨rfl, inner⟩ := List.cons_prefix_cons.mp starts
    exact ⟨_, _, rfl, inner, spells⟩

theorem Longest.behind_sign {sign : Char} (bare : Bare Spells) (isSign : sign = '-' ∨ sign = '+')
    {text piece : List Char} {x y : α} (longest : Longest Spells text piece x)
    (spells : Signed Spells (sign :: piece) y) :
    Longest (Signed Spells) (sign :: text) (sign :: piece) y where
  starts := (List.prefix_cons_inj sign).mpr longest.starts
  spells := spells
  longest := by
    intro other z starts isOther
    obtain ⟨rest, w, rfl, inner, isRest⟩ := bare.behind_sign isSign starts isOther
    exact Nat.succ_le_succ (longest.longest rest w inner isRest)

/-- Behind a sign a reader goes by the longest piece if it does so without one. -/
theorem ReadsLongest.signed (reads : ReadsLongest read span Spells) (bare : Bare Spells) :
    ReadsLongest (signed read) (signedSpan span) (Signed Spells) where
  found := by
    intro text x isRead
    unfold Text.signed at isRead
    split at isRead
    · obtain ⟨y, inner, rfl⟩ := Option.map_eq_some_iff.mp isRead
      have longest := reads.found _ _ inner
      exact longest.behind_sign bare (.inl rfl) (.minus longest.spells)
    · have longest := reads.found _ _ isRead
      exact longest.behind_sign bare (.inr rfl) (.plus longest.spells)
    · next noMinus noPlus =>
      have longest := reads.found _ _ isRead
      have unsigned : signedSpan span text = span text := by
        unfold signedSpan
        split
        · exact absurd rfl (noMinus _)
        · exact absurd rfl (noPlus _)
        · rfl
      rw [unsigned]
      refine ⟨longest.starts, .unsigned longest.spells, fun other y starts spells => ?_⟩
      cases spells with
      | unsigned spells => exact longest.longest other y starts spells
      | plus spells =>
        obtain ⟨rest, rfl⟩ := starts
        exact absurd rfl (noPlus _)
      | minus spells =>
        obtain ⟨rest, rfl⟩ := starts
        exact absurd rfl (noMinus _)
  missing := by
    intro text notRead piece x starts spells
    unfold Text.signed at notRead
    split at notRead
    · obtain ⟨rest, y, _, inner, spells⟩ := bare.behind_sign (.inl rfl) starts spells
      exact reads.missing _ (Option.map_eq_none_iff.mp notRead) rest y inner spells
    · obtain ⟨rest, y, _, inner, spells⟩ := bare.behind_sign (.inr rfl) starts spells
      exact reads.missing _ notRead rest y inner spells
    · next noMinus noPlus =>
      cases spells with
      | unsigned spells => exact reads.missing _ notRead piece x starts spells
      | plus spells =>
        obtain ⟨rest, rfl⟩ := starts
        exact absurd rfl (noPlus _)
      | minus spells =>
        obtain ⟨rest, rfl⟩ := starts
        exact absurd rfl (noMinus _)

theorem ReadsWhole.signed (whole : ReadsWhole read Spells) (bare : Bare Spells) :
    ReadsWhole (signed read) (Signed Spells) := by
  intro piece x spells
  cases spells with
  | unsigned spells =>
    obtain ⟨c, rest, rfl, noMinus, noPlus⟩ := bare piece x spells
    simpa [Text.signed, noMinus, noPlus] using whole _ _ spells
  | plus spells => exact whole _ _ spells
  | minus spells => simp [Text.signed, whole _ _ spells]

end Signs

theorem drop_length_takeWhile (p : Char → Bool) (text : List Char) :
    text.drop (text.takeWhile p).length = text.dropWhile p := by
  have parts := List.takeWhile_append_dropWhile (p := p) (l := text)
  exact (congrArg (List.drop _) parts.symm).trans List.drop_left

theorem digits_parts {digits behind : List Char} (isDigits : ∀ c ∈ digits, Decimal.isDigit c = true)
    (stops : ∀ c ∈ behind.head?, Decimal.isDigit c = false) :
    (digits ++ behind).takeWhile Decimal.isDigit = digits ∧
      (digits ++ behind).dropWhile Decimal.isDigit = behind := by
  rw [List.takeWhile_append_of_pos isDigits, List.dropWhile_append_of_pos isDigits]
  cases behind with
  | nil => exact ⟨List.append_nil _, rfl⟩
  | cons c behind =>
    have notDigit : ¬ Decimal.isDigit c = true := by simp [stops c rfl]
    rw [List.takeWhile_cons_of_neg notDigit, List.dropWhile_cons_of_neg notDigit, List.append_nil]
    exact ⟨rfl, rfl⟩

theorem digits_cases {digits behind text : List Char} (isDigits : ∀ c ∈ digits, Decimal.isDigit c = true)
    (stops : ∀ c ∈ behind.head?, Decimal.isDigit c = false) (starts : digits ++ behind <+: text) :
    (behind = [] ∧ digits.length ≤ (text.takeWhile Decimal.isDigit).length) ∨
      (text.takeWhile Decimal.isDigit = digits ∧ behind <+: text.dropWhile Decimal.isDigit) := by
  obtain ⟨rest, rfl⟩ := starts
  rw [List.append_assoc]
  cases behind with
  | nil =>
    rw [List.nil_append, List.takeWhile_append_of_pos isDigits, List.length_append]
    exact .inl ⟨rfl, Nat.le_add_right _ _⟩
  | cons c behind =>
    replace stops : ∀ d ∈ (c :: behind ++ rest).head?, Decimal.isDigit d = false := stops
    obtain ⟨isDigits, isRest⟩ := digits_parts isDigits stops
    rw [isDigits, isRest]
    exact .inr ⟨rfl, List.prefix_append _ _⟩

theorem isDigits_takeWhile {text : List Char} (isThere : text.takeWhile Decimal.isDigit ≠ []) :
    IsDigits (text.takeWhile Decimal.isDigit) :=
  ⟨isThere, fun _ member => List.mem_takeWhile_imp member⟩

theorem ne_of_decimalDigit {c other : Char} (isDigit : Decimal.isDigit c = true)
    (notDigit : Decimal.isDigit other = false) : c ≠ other := by
  rintro rfl
  exact Bool.false_ne_true (notDigit.symm.trans isDigit)

section Powers

def natural? (text : List Char) : Option Int :=
  match text.takeWhile Decimal.isDigit with
  | [] => none
  | digits => some (Decimal.natOfDigits digits)

theorem natural?_eq (text : List Char) :
    natural? text =
      if text.takeWhile Decimal.isDigit = [] then none
      else some (Decimal.natOfDigits (text.takeWhile Decimal.isDigit) : Int) := by
  rw [natural?]
  split
  · next isEmpty => rw [if_pos isEmpty]
  · next isThere => rw [if_neg isThere]

theorem readsLongest_natural :
    ReadsLongest natural? (List.takeWhile Decimal.isDigit) SpellsNatural := by
  have within {text piece : List Char} {n : Int} (starts : piece <+: text)
      (spells : SpellsNatural piece n) : piece.length ≤ (text.takeWhile Decimal.isDigit).length := by
    rw [← List.append_nil piece] at starts
    rcases digits_cases spells.1.2 (by simp) starts with ⟨_, le⟩ | ⟨same, _⟩
    · exact le
    · rw [same]
  constructor
  · intro text n isRead
    rw [natural?_eq] at isRead
    obtain ⟨isThere, same⟩ := Option.ite_none_left_eq_some.mp isRead
    refine ⟨List.takeWhile_prefix _, ⟨isDigits_takeWhile isThere, ?_⟩, ?_⟩
    · exact (Option.some.inj same).symm
    · exact fun other y starts spells => within starts spells
  · intro text notRead piece n starts spells
    rw [natural?_eq, ite_eq_left_iff] at notRead
    have isEmpty : text.takeWhile Decimal.isDigit = [] := by
      by_contra isThere
      cases notRead isThere
    have short := within starts spells
    rw [isEmpty] at short
    exact spells.1.1 (List.length_eq_zero_iff.mp (Nat.le_zero.mp short))

theorem readsWhole_natural : ReadsWhole natural? SpellsNatural := by
  rintro piece n ⟨⟨isThere, isDigits⟩, rfl⟩
  rw [natural?_eq, List.takeWhile_eq_self_iff.mpr isDigits, if_neg isThere]

theorem bare_natural : Bare SpellsNatural := by
  rintro piece n ⟨⟨isThere, isDigits⟩, _⟩
  obtain ⟨c, rest, rfl⟩ := List.exists_cons_of_ne_nil isThere
  have isDigit := isDigits c (.head _)
  exact ⟨c, rest, rfl, ne_of_decimalDigit isDigit rfl, ne_of_decimalDigit isDigit rfl⟩

theorem exponent?_marked {mark : Char} (isMark : mark = 'e' ∨ mark = 'E') (text : List Char) :
    exponent? (mark :: text) = signed natural? text := by
  have read (negative : Bool) (rest : List Char) :
      (match rest.takeWhile Decimal.isDigit with
        | [] => none
        | digits =>
          let size : Int := Decimal.natOfDigits digits
          some (if negative then -size else size)) =
        (natural? rest).map fun n => if negative then -n else n := by
    rw [natural?]
    split <;> rfl
  rcases text with _ | ⟨c, rest⟩
  · simp [exponent?, isMark, signed, natural?]
  by_cases isMinus : c = '-'
  · subst isMinus
    simp only [exponent?, if_pos isMark]
    exact read true rest
  by_cases isPlus : c = '+'
  · subst isPlus
    simp only [exponent?, if_pos isMark]
    exact (read false rest).trans Option.map_id'
  · have bare : signed natural? (c :: rest) = natural? (c :: rest) := by
      simp [signed, isMinus, isPlus]
    have unfolded := exponent?.eq_def (mark :: c :: rest)
    simp only [if_pos isMark] at unfolded
    simp [isMinus, isPlus] at unfolded
    exact unfolded.trans (((read false (c :: rest)).trans Option.map_id').trans bare.symm)

theorem exponent?_unmarked {text : List Char} (unmarked : ∀ mark ∈ text.head?, ¬ (mark = 'e' ∨ mark = 'E')) :
    exponent? text = none := by
  cases text with
  | nil => rfl
  | cons mark rest => simp only [exponent?, if_neg (unmarked mark rfl)]

def powerSpan (text : List Char) : List Char :=
  match text with
  | mark :: rest =>
    if (exponent? text).isSome then mark :: signedSpan (List.takeWhile Decimal.isDigit) rest else []
  | [] => []

/-- The exponent of a number is the longest piece that spells one; an incomplete one is left out. -/
theorem longest_power (text : List Char) :
    Longest SpellsPower text (powerSpan text) ((exponent? text).getD 0) := by
  have reads := readsLongest_natural.signed bare_natural
  -- where no exponent is, the empty piece is the longest
  have absent (none : ∀ mark rest n, mark :: rest <+: text → (mark = 'e' ∨ mark = 'E') →
      ¬ Signed SpellsNatural rest n) : Longest SpellsPower text [] 0 := by
    refine ⟨List.nil_prefix, .absent, fun other n starts spells => ?_⟩
    cases spells with
    | absent => exact Nat.le_refl _
    | marked isMark integer => exact absurd integer (none _ _ _ starts isMark)
  cases text with
  | nil => exact absent fun mark rest n starts => absurd starts (by simp)
  | cons mark rest =>
    by_cases isMark : mark = 'e' ∨ mark = 'E'
    · rw [powerSpan, exponent?_marked isMark]
      cases isRead : signed natural? rest with
      | none =>
        refine absent fun other inner n starts _ integer => ?_
        exact reads.missing rest isRead inner n (List.cons_prefix_cons.mp starts).2 integer
      | some n =>
        have longest := reads.found rest n isRead
        refine ⟨(List.prefix_cons_inj mark).mpr longest.starts, .marked isMark longest.spells,
          fun other m starts spells => ?_⟩
        cases spells with
        | absent => exact Nat.zero_le _
        | marked _ integer =>
          exact Nat.succ_le_succ
            (longest.longest _ _ (List.cons_prefix_cons.mp starts).2 integer)
    · rw [powerSpan, exponent?_unmarked (by rintro _ ⟨⟩; exact isMark)]
      refine absent fun other inner n starts isOther => ?_
      exact absurd ((List.cons_prefix_cons.mp starts).1 ▸ isOther) isMark

theorem exponent?_of_spells {power : List Char} {exponent : Int} (spells : SpellsPower power exponent) :
    (exponent? power).getD 0 = exponent := by
  cases spells with
  | absent => rfl
  | marked isMark integer =>
    rw [exponent?_marked isMark, readsWhole_natural.signed bare_natural _ _ integer, Option.getD_some]

theorem SpellsPower.head {power : List Char} {exponent : Int} (spells : SpellsPower power exponent) :
    ∀ c ∈ power.head?, Decimal.isDigit c = false ∧ c ≠ '.' := by
  cases spells with
  | absent => exact fun c isHead => absurd isHead (by simp)
  | marked isMark _ =>
    rintro _ ⟨⟩
    rcases isMark with rfl | rfl
    · exact ⟨rfl, by decide⟩
    · exact ⟨rfl, by decide⟩

end Powers

section Magnitudes

variable {text : List Char}

theorem magnitude?_infinite (rest : List Char) :
    magnitude? ("Infinity".toList ++ rest) = some Decimal.infinity := by
  rw [magnitude?, if_pos (List.isPrefixOf_iff_prefix.mpr (List.prefix_append _ _))]

variable (finite : ¬ "Infinity".toList <+: text)

include finite

theorem magnitude?_pointed {behind : List Char}
    (point : text.dropWhile Decimal.isDigit = '.' :: behind) :
    magnitude? text =
      let digits := text.takeWhile Decimal.isDigit ++ behind.takeWhile Decimal.isDigit
      if digits = [] then none
      else some (Decimal.nearestFloat (Decimal.natOfDigits digits)
        ((exponent? (behind.dropWhile Decimal.isDigit)).getD 0 -
          (behind.takeWhile Decimal.isDigit).length)) := by
  simp only [magnitude?, List.isPrefixOf_iff_prefix, finite, drop_length_takeWhile, point,
    List.append_eq_nil_iff, Bool.and_eq_true, List.isEmpty_iff]
  rfl

theorem magnitude?_pointless (noPoint : ∀ behind, text.dropWhile Decimal.isDigit ≠ '.' :: behind) :
    magnitude? text =
      if text.takeWhile Decimal.isDigit = [] then none
      else some (Decimal.nearestFloat (Decimal.natOfDigits (text.takeWhile Decimal.isDigit))
        ((exponent? (text.dropWhile Decimal.isDigit)).getD 0)) := by
  simp only [magnitude?, List.isPrefixOf_iff_prefix, finite, drop_length_takeWhile,
    if_false]
  generalize text.dropWhile Decimal.isDigit = rest at noPoint
  cases rest with
  | nil => simp
  | cons c behind =>
    simp

/-- A piece that spells a decimal reaches no further than the digits, the point and an exponent that stands
there. -/
theorem decimal_cases {piece : List Char} {x : Float} (starts : piece <+: text)
    (spells : SpellsMagnitude piece x) :
    (∃ power exponent, SpellsPower power exponent ∧ power <+: text.dropWhile Decimal.isDigit ∧
      text.takeWhile Decimal.isDigit ≠ [] ∧
      piece.length ≤ (text.takeWhile Decimal.isDigit).length + power.length) ∨
    ∃ behind power exponent, text.dropWhile Decimal.isDigit = '.' :: behind ∧
      SpellsPower power exponent ∧ power <+: behind.dropWhile Decimal.isDigit ∧
      text.takeWhile Decimal.isDigit ++ behind.takeWhile Decimal.isDigit ≠ [] ∧
      piece.length ≤ (text.takeWhile Decimal.isDigit).length + 1 +
        (behind.takeWhile Decimal.isDigit).length + power.length := by
  cases spells with
  | infinity => exact absurd starts finite
  | whole isNumber isPower =>
    refine .inl ?_
    rcases digits_cases isNumber.2 (fun c isHead => (isPower.head c isHead).1) starts with
      ⟨rfl, within⟩ | ⟨same, inner⟩
    · refine ⟨[], 0, .absent, List.nil_prefix, fun isEmpty => ?_, ?_⟩
      · rw [isEmpty] at within
        exact isNumber.1 (List.length_eq_zero_iff.mp (Nat.le_zero.mp within))
      · simpa using within
    · exact ⟨_, _, isPower, inner, same ▸ isNumber.1, by rw [same, List.length_append]⟩
  | @pointed whole places power exponent isNumber isPower =>
    refine .inr ?_
    have isWhole : ∀ c ∈ whole, Decimal.isDigit c = true := fun c member =>
      isNumber.2 c (List.mem_append_left _ member)
    have isPlaces : ∀ c ∈ places, Decimal.isDigit c = true := fun c member =>
      isNumber.2 c (List.mem_append_right _ member)
    rcases digits_cases isWhole (by rintro _ ⟨⟩; rfl) starts with ⟨isEmpty, _⟩ | ⟨same, inner⟩
    · cases isEmpty
    obtain ⟨rest, isRest⟩ := inner
    have inner : places ++ power <+: places ++ power ++ rest := List.prefix_append _ _
    refine ⟨places ++ power ++ rest, ?_⟩
    rw [same, ← isRest]
    rcases digits_cases isPlaces (fun c isHead => (isPower.head c isHead).1) inner with
      ⟨rfl, within⟩ | ⟨samePlaces, inner⟩
    · refine ⟨[], 0, rfl, .absent, List.nil_prefix, fun isEmpty => ?_, ?_⟩
      · obtain ⟨rfl, noPlaces⟩ := List.append_eq_nil_iff.mp isEmpty
        rw [noPlaces] at within
        exact isNumber.1 (List.length_eq_zero_iff.mp (Nat.le_zero.mp within))
      · simp only [List.length_append, List.length_cons, List.length_nil]
        omega
    · refine ⟨power, exponent, rfl, isPower, inner, by rw [samePlaces]; exact isNumber.1, ?_⟩
      simp only [samePlaces, List.length_append, List.length_cons]
      omega

theorem longest_pointed {behind power : List Char} {exponent : Int}
    (point : text.dropWhile Decimal.isDigit = '.' :: behind)
    (isThere : text.takeWhile Decimal.isDigit ++ behind.takeWhile Decimal.isDigit ≠ [])
    (longest : Longest SpellsPower (behind.dropWhile Decimal.isDigit) power exponent) :
    Longest SpellsMagnitude text
      (text.takeWhile Decimal.isDigit ++ '.' :: (behind.takeWhile Decimal.isDigit ++ power))
      (Decimal.nearestFloat
        (Decimal.natOfDigits (text.takeWhile Decimal.isDigit ++ behind.takeWhile Decimal.isDigit))
        (exponent - (behind.takeWhile Decimal.isDigit).length)) where
  starts := by
    have parts := List.takeWhile_append_dropWhile (p := Decimal.isDigit) (l := text)
    have inner := List.takeWhile_append_dropWhile (p := Decimal.isDigit) (l := behind)
    conv_rhs => rw [← parts, point, ← inner]
    rw [List.prefix_append_right_inj, List.cons_prefix_cons, List.prefix_append_right_inj]
    exact ⟨rfl, longest.starts⟩
  spells := by
    refine .pointed ⟨isThere, fun c member => ?_⟩ longest.spells
    rcases List.mem_append.mp member with isWhole | isPlace
    · exact List.mem_takeWhile_imp isWhole
    · exact List.mem_takeWhile_imp isPlace
  longest := by
    intro other x starts spells
    rw [List.length_append, List.length_cons, List.length_append]
    rcases decimal_cases finite starts spells with
      ⟨shorter, _, isPower, inner, _, le⟩ | ⟨again, shorter, _, same, isPower, inner, _, le⟩
    · -- an exponent does not start with the point
      have isEmpty : shorter = [] := by
        cases isPower with
        | absent => rfl
        | marked isMark _ =>
          rw [point] at inner
          obtain ⟨rfl, _⟩ := List.cons_prefix_cons.mp inner
          rcases isMark with isMark | isMark <;> cases isMark
      rw [isEmpty, List.length_nil] at le
      omega
    · obtain ⟨_, rfl⟩ := List.cons.inj (point.symm.trans same)
      have shorter := longest.longest _ _ inner isPower
      omega

theorem longest_pointless {power : List Char} {exponent : Int}
    (noPoint : ∀ behind, text.dropWhile Decimal.isDigit ≠ '.' :: behind)
    (isThere : text.takeWhile Decimal.isDigit ≠ [])
    (longest : Longest SpellsPower (text.dropWhile Decimal.isDigit) power exponent) :
    Longest SpellsMagnitude text (text.takeWhile Decimal.isDigit ++ power)
      (Decimal.nearestFloat (Decimal.natOfDigits (text.takeWhile Decimal.isDigit)) exponent) where
  starts := by
    have parts := List.takeWhile_append_dropWhile (p := Decimal.isDigit) (l := text)
    conv_rhs => rw [← parts]
    rw [List.prefix_append_right_inj]
    exact longest.starts
  spells := .whole (isDigits_takeWhile isThere) longest.spells
  longest := by
    intro other x starts spells
    rw [List.length_append]
    rcases decimal_cases finite starts spells with
      ⟨shorter, _, isPower, inner, _, le⟩ | ⟨behind, _, _, point, _⟩
    · have shorter := longest.longest _ _ inner isPower
      omega
    · exact absurd point (noPoint behind)

end Magnitudes

theorem SpellsMagnitude.head {piece : List Char} {x : Float} (spells : SpellsMagnitude piece x) :
    (piece = "Infinity".toList ∧ x = Decimal.infinity) ∨
      ∃ c rest, piece = c :: rest ∧ (Decimal.isDigit c = true ∨ c = '.') := by
  cases spells with
  | infinity => exact .inl ⟨rfl, rfl⟩
  | @whole whole power exponent isNumber isPower =>
    obtain ⟨c, rest, rfl⟩ := List.exists_cons_of_ne_nil isNumber.1
    exact .inr ⟨c, rest ++ power, rfl, .inl (isNumber.2 c (.head _))⟩
  | @pointed whole places power exponent isNumber isPower =>
    cases whole with
    | nil => exact .inr ⟨'.', places ++ power, rfl, .inr rfl⟩
    | cons c rest => exact .inr ⟨c, rest ++ '.' :: (places ++ power), rfl, .inl (isNumber.2 c (.head _))⟩

theorem bare_magnitude : Bare SpellsMagnitude := by
  intro piece x spells
  rcases spells.head with ⟨rfl, _⟩ | ⟨c, rest, rfl, isDigit | rfl⟩
  · exact ⟨'I', "nfinity".toList, rfl, by decide, by decide⟩
  · exact ⟨c, rest, rfl, ne_of_decimalDigit isDigit rfl, ne_of_decimalDigit isDigit rfl⟩
  · exact ⟨'.', rest, rfl, by decide, by decide⟩

theorem eq_infinity_of_spells {rest piece : List Char} {x : Float}
    (starts : piece <+: "Infinity".toList ++ rest) (spells : SpellsMagnitude piece x) :
    piece = "Infinity".toList := by
  rcases spells.head with ⟨same, _⟩ | ⟨c, inner, rfl, isFirst⟩
  · exact same
  · have same : c = 'I' := (List.cons_prefix_cons.mp starts).1
    subst same
    rcases isFirst with isDigit | isPoint
    · cases isDigit
    · cases isPoint

def magnitudeSpan (text : List Char) : List Char :=
  if "Infinity".toList <+: text then "Infinity".toList
  else
    text.takeWhile Decimal.isDigit ++
      match text.dropWhile Decimal.isDigit with
      | '.' :: behind =>
        '.' :: (behind.takeWhile Decimal.isDigit ++ powerSpan (behind.dropWhile Decimal.isDigit))
      | rest => powerSpan rest

theorem magnitudeSpan_pointed {text behind : List Char} (finite : ¬ "Infinity".toList <+: text)
    (point : text.dropWhile Decimal.isDigit = '.' :: behind) :
    magnitudeSpan text = text.takeWhile Decimal.isDigit ++
      '.' :: (behind.takeWhile Decimal.isDigit ++ powerSpan (behind.dropWhile Decimal.isDigit)) := by
  simp only [magnitudeSpan, if_neg finite, point]

theorem magnitudeSpan_pointless {text : List Char} (finite : ¬ "Infinity".toList <+: text)
    (noPoint : ∀ behind, text.dropWhile Decimal.isDigit ≠ '.' :: behind) :
    magnitudeSpan text =
      text.takeWhile Decimal.isDigit ++ powerSpan (text.dropWhile Decimal.isDigit) := by
  rw [magnitudeSpan, if_neg finite]
  split
  · next behind point => exact absurd point (noPoint behind)
  · rfl

theorem readsLongest_magnitude : ReadsLongest magnitude? magnitudeSpan SpellsMagnitude where
  found := by
    intro text x isRead
    by_cases infinite : "Infinity".toList <+: text
    · rw [magnitudeSpan, if_pos infinite]
      obtain ⟨rest, rfl⟩ := infinite
      rw [magnitude?_infinite] at isRead
      obtain rfl := Option.some.inj isRead
      refine ⟨List.prefix_append _ _, .infinity, fun other y starts spells => ?_⟩
      rw [eq_infinity_of_spells starts spells]
    by_cases point : ∃ behind, text.dropWhile Decimal.isDigit = '.' :: behind
    · obtain ⟨behind, point⟩ := point
      rw [magnitude?_pointed infinite point] at isRead
      obtain ⟨isThere, same⟩ := Option.ite_none_left_eq_some.mp isRead
      obtain rfl := Option.some.inj same
      rw [magnitudeSpan_pointed infinite point]
      exact longest_pointed infinite point isThere (longest_power _)
    · have noPoint := not_exists.mp point
      rw [magnitude?_pointless infinite noPoint] at isRead
      obtain ⟨isThere, same⟩ := Option.ite_none_left_eq_some.mp isRead
      obtain rfl := Option.some.inj same
      rw [magnitudeSpan_pointless infinite noPoint]
      exact longest_pointless infinite noPoint isThere (longest_power _)
  missing := by
    intro text notRead piece x starts spells
    by_cases infinite : "Infinity".toList <+: text
    · obtain ⟨rest, rfl⟩ := infinite
      rw [magnitude?_infinite] at notRead
      cases notRead
    rcases decimal_cases infinite starts spells with
      ⟨_, _, _, _, isThere, _⟩ | ⟨behind, _, _, point, _, _, isThere, _⟩
    · by_cases point : ∃ behind, text.dropWhile Decimal.isDigit = '.' :: behind
      · obtain ⟨behind, point⟩ := point
        rw [magnitude?_pointed infinite point] at notRead
        simp [isThere] at notRead
      · rw [magnitude?_pointless infinite (not_exists.mp point), if_neg isThere] at notRead
        cases notRead
    · rw [magnitude?_pointed infinite point] at notRead
      simp only [if_neg isThere] at notRead
      cases notRead

theorem readsWhole_magnitude : ReadsWhole magnitude? SpellsMagnitude := by
  intro piece x spells
  rcases spells.head with ⟨rfl, rfl⟩ | ⟨c, inner, same, isFirst⟩
  · exact magnitude?_infinite []
  have finite : ¬ "Infinity".toList <+: piece := by
    rw [same]
    intro starts
    have isLetter : 'I' = c := (List.cons_prefix_cons.mp starts).1
    subst isLetter
    rcases isFirst with isDigit | isPoint
    · cases isDigit
    · cases isPoint
  cases spells with
  | infinity => exact absurd List.prefix_rfl finite
  | @whole whole power exponent isNumber isPower =>
    obtain ⟨isWhole, rest⟩ := digits_parts isNumber.2 fun c isHead => (isPower.head c isHead).1
    have noPoint : ∀ behind, (whole ++ power).dropWhile Decimal.isDigit ≠ '.' :: behind := by
      rintro behind point
      rw [rest] at point
      exact (isPower.head '.' (point ▸ rfl)).2 rfl
    rw [magnitude?_pointless finite noPoint, isWhole, rest, if_neg isNumber.1,
      exponent?_of_spells isPower]
  | @pointed whole places power exponent isNumber isPower =>
    have stops : ∀ c ∈ ('.' :: (places ++ power)).head?, Decimal.isDigit c = false := by
      rintro _ ⟨⟩
      rfl
    obtain ⟨isWhole, rest⟩ := digits_parts (fun c member => isNumber.2 c (List.mem_append_left _ member)) stops
    obtain ⟨isPlaces, isRest⟩ := digits_parts
      (fun c member => isNumber.2 c (List.mem_append_right _ member))
      fun c isHead => (isPower.head c isHead).1
    rw [magnitude?_pointed finite rest, isWhole]
    simp only [isPlaces, isRest, if_neg isNumber.1, exponent?_of_spells isPower]

/-- The number that a text starts with is the longest piece that spells one. -/
theorem readsLongest_number :
    ReadsLongest (signed magnitude?) (signedSpan magnitudeSpan) SpellsNumber :=
  readsLongest_magnitude.signed bare_magnitude

theorem readsWhole_number : ReadsWhole (signed magnitude?) SpellsNumber :=
  readsWhole_magnitude.signed bare_magnitude

end Text
end WireContract
