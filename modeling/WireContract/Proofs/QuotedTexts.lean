import WireContract.Proofs.DebugTexts

namespace WireContract

namespace Text

theorem append_mark_inj {mark : Char} {before otherBefore rest other : List Char} (absent : mark ∉ before)
    (otherAbsent : mark ∉ otherBefore) (same : before ++ mark :: rest = otherBefore ++ mark :: other) :
    before = otherBefore ∧ rest = other := by
  induction before generalizing otherBefore with
  | nil =>
    cases otherBefore with
    | nil => exact ⟨rfl, (List.cons.inj same).2⟩
    | cons c _ => exact absurd (List.mem_cons.mpr (.inl (List.cons.inj same).1)) otherAbsent
  | cons c before ih =>
    cases otherBefore with
    | nil => exact absurd (List.mem_cons.mpr (.inl (List.cons.inj same).1.symm)) absent
    | cons d otherBefore =>
      obtain ⟨rfl, later⟩ := List.cons.inj same
      rw [List.mem_cons, not_or] at absent otherAbsent
      obtain ⟨rfl, restSame⟩ := ih absent.2 otherAbsent.2 later
      exact ⟨rfl, restSame⟩

theorem digitChar_inj_of_lt {m n : Nat} (mBelow : m < 16) (nBelow : n < 16)
    (same : m.digitChar = n.digitChar) : m = n := by
  have all : ∀ m < 16, ∀ n < 16, Nat.digitChar m = Nat.digitChar n → m = n := by decide
  exact all m mBelow n nBelow same

theorem hexDigits_inj {m n : Nat} (same : hexDigits m = hexDigits n) : m = n := by
  unfold hexDigits at same
  induction m using Nat.strongRecOn generalizing n with
  | ind m ih =>
    have single {n : Nat} (below : n < 16) : Nat.toDigits 16 n = [n.digitChar] :=
      Nat.toDigits_of_lt_base below
    have several {n : Nat} (notBelow : ¬ n < 16) :
        Nat.toDigits 16 n = Nat.toDigits 16 (n / 16) ++ [(n % 16).digitChar] :=
      Nat.toDigits_of_base_le (by decide) (by omega)
    by_cases mBelow : m < 16 <;> by_cases nBelow : n < 16
    · rw [single mBelow, single nBelow] at same
      exact digitChar_inj_of_lt mBelow nBelow (List.singleton_inj.mp same)
    · rw [single mBelow, several nBelow] at same
      have lengths := congrArg List.length same
      simp [Nat.toDigits_ne_nil] at lengths
    · rw [several mBelow, single nBelow] at same
      have lengths := congrArg List.length same
      simp [Nat.toDigits_ne_nil] at lengths
    · rw [several mBelow, several nBelow] at same
      obtain ⟨leading, last⟩ := List.append_inj' same rfl
      have quotients : m / 16 = n / 16 := ih _ (by omega) leading
      have remainders : m % 16 = n % 16 :=
        digitChar_inj_of_lt (Nat.mod_lt _ (by decide)) (Nat.mod_lt _ (by decide)) (List.singleton_inj.mp last)
      omega

theorem digitChar_ne_of_lt {n : Nat} (below : n < 16) : n.digitChar ≠ '\x7d' ∧ n.digitChar ≠ '"' ∧
    n.digitChar ≠ '\\' := by
  have all : ∀ n < 16, Nat.digitChar n ≠ '\x7d' ∧ Nat.digitChar n ≠ '"' ∧ Nat.digitChar n ≠ '\\' := by
    decide
  exact all n below

theorem ne_of_mem_hexDigits {c : Char} {n : Nat} (member : c ∈ hexDigits n) :
    c ≠ '\x7d' ∧ c ≠ '"' ∧ c ≠ '\\' := by
  unfold hexDigits at member
  induction n using Nat.strongRecOn with
  | ind n ih =>
    rw [Nat.toDigits_eq_if (by decide)] at member
    split at member
    · next below =>
      obtain rfl := List.mem_singleton.mp member
      exact digitChar_ne_of_lt below
    · rcases List.mem_append.mp member with leading | last
      · exact ih _ (by omega) leading
      · obtain rfl := List.mem_singleton.mp last
        exact digitChar_ne_of_lt (Nat.mod_lt _ (by decide))

def unescaped (e : Char) : Char :=
  match e with
  | '0' => '\x00'
  | 't' => '\t'
  | 'r' => '\r'
  | 'n' => '\n'
  | e => e

/-- How a character stands in quotes: as itself, as a backslash and one more, or as its code. -/
theorem debugEscape_cases (c : Char) :
    (debugEscape c = [c] ∧ c ≠ '"' ∧ c ≠ '\\') ∨
      (∃ e, debugEscape c = ['\\', e] ∧ e ≠ 'u' ∧ unescaped e = c) ∨ debugEscape c = codeEscape c := by
  unfold debugEscape
  split
  · exact .inr (.inl ⟨'0', rfl, by decide, rfl⟩)
  · exact .inr (.inl ⟨'t', rfl, by decide, rfl⟩)
  · exact .inr (.inl ⟨'r', rfl, by decide, rfl⟩)
  · exact .inr (.inl ⟨'n', rfl, by decide, rfl⟩)
  · exact .inr (.inl ⟨'"', rfl, by decide, rfl⟩)
  · exact .inr (.inl ⟨'\\', rfl, by decide, rfl⟩)
  · next noQuote noSlash =>
    split
    · exact .inl ⟨rfl, noQuote, noSlash⟩
    · split
      · exact .inr (.inr rfl)
      · exact .inl ⟨rfl, noQuote, noSlash⟩

theorem codeEscape_inj {c d : Char} {rest other : List Char}
    (same : codeEscape c ++ rest = codeEscape d ++ other) : c = d ∧ rest = other := by
  have parted (c : Char) (rest : List Char) :
      codeEscape c ++ rest = ['\\', 'u', '\x7b'] ++ (hexDigits c.toNat ++ '\x7d' :: rest) := by
    simp [codeEscape]
  rw [parted, parted] at same
  have absent (c : Char) : '\x7d' ∉ hexDigits c.toNat := fun member => (ne_of_mem_hexDigits member).1 rfl
  obtain ⟨codes, restSame⟩ := append_mark_inj (absent c) (absent d) (List.append_cancel_left same)
  exact ⟨Char.toNat_inj.mp (hexDigits_inj codes), restSame⟩

theorem debugEscape_inj {c d : Char} {rest other : List Char}
    (same : debugEscape c ++ rest = debugEscape d ++ other) : c = d ∧ rest = other := by
  -- a backslash starts every form but the first, and the code is the form that goes on with a `u`
  rcases debugEscape_cases c with ⟨plain, _, noSlash⟩ | ⟨e, named, notCode, rfl⟩ | coded <;>
    rcases debugEscape_cases d with
      ⟨otherPlain, _, otherNoSlash⟩ | ⟨f, otherNamed, otherNotCode, rfl⟩ | otherCoded
  · rw [plain, otherPlain] at same
    exact List.cons.inj same
  · rw [plain, otherNamed] at same
    exact absurd (List.cons.inj same).1 noSlash
  · rw [plain, otherCoded] at same
    exact absurd (List.cons.inj same).1 noSlash
  · rw [named, otherPlain] at same
    exact absurd (List.cons.inj same).1.symm otherNoSlash
  · rw [named, otherNamed] at same
    obtain ⟨rfl, restSame⟩ := List.cons.inj (List.cons.inj same).2
    exact ⟨rfl, restSame⟩
  · rw [named, otherCoded] at same
    exact absurd (List.cons.inj (List.cons.inj same).2).1 notCode
  · rw [coded, otherPlain] at same
    exact absurd (List.cons.inj same).1.symm otherNoSlash
  · rw [coded, otherNamed] at same
    exact absurd (List.cons.inj (List.cons.inj same).2).1.symm otherNotCode
  · rw [coded, otherCoded] at same
    exact codeEscape_inj same

theorem debugEscape_ne_quote (c : Char) {rest other : List Char} : '"' :: rest ≠ debugEscape c ++ other := by
  intro same
  rcases debugEscape_cases c with ⟨plain, noQuote, _⟩ | ⟨e, named, _, _⟩ | coded
  · rw [plain] at same
    exact noQuote (List.cons.inj same).1.symm
  · rw [named] at same
    cases same
  · rw [coded] at same
    cases same

theorem quotedRest_inj {chars others rest other : List Char}
    (same : chars.flatMap debugEscape ++ '"' :: rest = others.flatMap debugEscape ++ '"' :: other) :
    chars = others ∧ rest = other := by
  induction chars generalizing others with
  | nil =>
    cases others with
    | nil => exact ⟨rfl, (List.cons.inj same).2⟩
    | cons d others =>
      rw [List.flatMap_cons, List.append_assoc] at same
      exact absurd same (debugEscape_ne_quote d)
  | cons c chars ih =>
    rw [List.flatMap_cons, List.append_assoc] at same
    cases others with
    | nil => exact absurd same.symm (debugEscape_ne_quote c)
    | cons d others =>
      rw [List.flatMap_cons, List.append_assoc] at same
      obtain ⟨rfl, later⟩ := debugEscape_inj same
      obtain ⟨rfl, restSame⟩ := ih later
      exact ⟨rfl, restSame⟩

theorem toList_quoted_append (text : String) (rest : List Char) :
    (quoted text).toList ++ rest = '"' :: (text.toList.flatMap debugEscape ++ '"' :: rest) := by
  rw [quoted, String.toList_ofList, List.cons_append, List.append_assoc, List.singleton_append]

/-- A quoted text is parted from what follows it in one way. -/
theorem quoted_append_inj {text otherText : String} {rest other : List Char}
    (same : (quoted text).toList ++ rest = (quoted otherText).toList ++ other) :
    text = otherText ∧ rest = other := by
  rw [toList_quoted_append, toList_quoted_append] at same
  obtain ⟨chars, restSame⟩ := quotedRest_inj (List.cons.inj same).2
  exact ⟨String.toList_inj.mp chars, restSame⟩

theorem quoted_injective : Function.Injective quoted := by
  intro text other same
  have appended : (quoted text).toList ++ [] = (quoted other).toList ++ [] := by rw [same]
  exact (quoted_append_inj appended).1

end Text

namespace Debug

open Text

theorem behind_quoted_of_ne {c : Char} (noQuote : c ≠ '"') (noSlash : c ≠ '\\') (depth : Nat)
    (rest : List Char) : behind depth .quoted (c :: rest) = behind depth .quoted rest := by
  rw [behind, beq_false_of_ne noQuote, beq_false_of_ne noSlash]
  rfl

theorem behind_debugEscape (c : Char) (depth : Nat) (rest : List Char) :
    behind depth .quoted (debugEscape c ++ rest) = behind depth .quoted rest := by
  rcases debugEscape_cases c with ⟨plain, noQuote, noSlash⟩ | ⟨e, named, _, _⟩ | coded
  · rw [plain]
    exact behind_quoted_of_ne noQuote noSlash depth rest
  · rw [named]
    rfl
  · have parted : codeEscape c ++ rest =
        '\\' :: 'u' :: '\x7b' :: (hexDigits c.toNat ++ '\x7d' :: rest) := by simp [codeEscape]
    have digits : ∀ chars : List Char, (∀ d ∈ chars, d ≠ '"' ∧ d ≠ '\\') → ∀ rest,
        behind depth .quoted (chars ++ rest) = behind depth .quoted rest := by
      intro chars plain rest
      induction chars with
      | nil => rfl
      | cons d chars ih =>
        obtain ⟨isPlain, others⟩ := List.forall_mem_cons.mp plain
        rw [List.cons_append, behind_quoted_of_ne isPlain.1 isPlain.2, ih others]
    rw [coded, parted]
    exact digits _ (fun d member => (ne_of_mem_hexDigits member).2) _

theorem whole_quoted (text : String) : Whole (quoted text) := by
  intro depth rest
  rw [toList_quoted_append]
  have read (chars : List Char) : behind depth .quoted (chars.flatMap debugEscape ++ '"' :: rest) =
      behind depth .plain rest := by
    induction chars with
    | nil => rfl
    | cons c chars ih => rw [List.flatMap_cons, List.append_assoc, behind_debugEscape, ih]
  exact read text.toList

end Debug
end WireContract
