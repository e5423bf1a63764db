import WireContract.Proofs.NumberBytes
import WireContract.Text.Utf8
import WireContract.Token.Base64

namespace WireContract
namespace Text

theorem decodeFrom_lead {byte left code low high : Nat} (lead : leadByte? byte = some (left, code, low, high))
    (rest : List Nat) :
    decodeFrom .between (byte :: rest) = decodeFrom (.within left code low high) rest := by
  have large : ¬ byte < 0x80 := by
    intro small
    rw [leadByte?, if_pos (by omega)] at lead
    cases lead
  simp only [decodeFrom, startByte, if_neg large, lead, List.nil_append]

theorem decodeFrom_next {byte left code low high : Nat} (within : low ≤ byte ∧ byte ≤ high) (rest : List Nat) :
    decodeFrom (.within (left + 2) code low high) (byte :: rest) =
      decodeFrom (.within (left + 1) (code * 64 + byte % 64) 0x80 0xBF) rest := by
  simp only [decodeFrom, if_pos within]
  exact if_neg (by omega)

theorem decodeFrom_last {byte code low high : Nat} (within : low ≤ byte ∧ byte ≤ high) (rest : List Nat) :
    decodeFrom (.within 1 code low high) (byte :: rest) =
      Char.ofNat (code * 64 + byte % 64) :: decodeFrom .between rest := by
  simp only [decodeFrom, if_pos within]
  exact if_pos (Nat.le_refl 1)

theorem leadByte?_two {n : Nat} (lower : 0x80 ≤ n) (upper : n < 0x800) :
    leadByte? (n / 64 + 192) = some (1, n / 64, 0x80, 0xBF) := by
  rw [leadByte?, if_neg (by omega), if_pos (by omega), Nat.add_sub_cancel]

theorem leadByte?_three {n : Nat} (lower : 0x800 ≤ n) (upper : n < 0x10000)
    (valid : n < 0xD800 ∨ 0xDFFF < n) :
    ∃ low high, leadByte? (n / 4096 + 224) = some (2, n / 4096, low, high) ∧
      low ≤ n / 64 % 64 + 128 ∧ n / 64 % 64 + 128 ≤ high := by
  unfold leadByte?
  split_ifs
  · omega
  · omega
  · exact ⟨_, _, by rw [show n / 4096 = 0 by omega], by omega, by omega⟩
  · exact ⟨_, _, by rw [show n / 4096 = 0xD by omega], by omega, by omega⟩
  · exact ⟨_, _, by rw [Nat.add_sub_cancel], by omega, by omega⟩
  all_goals omega

theorem leadByte?_four {n : Nat} (lower : 0x10000 ≤ n) (upper : n < 0x110000) :
    ∃ low high, leadByte? (n / 262144 + 240) = some (3, n / 262144, low, high) ∧
      low ≤ n / 4096 % 64 + 128 ∧ n / 4096 % 64 + 128 ≤ high := by
  unfold leadByte?
  split_ifs
  · omega
  · omega
  · omega
  · omega
  · omega
  · exact ⟨_, _, by rw [show n / 262144 = 0 by omega], by omega, by omega⟩
  · exact ⟨_, _, by rw [Nat.add_sub_cancel], by omega, by omega⟩
  · exact ⟨_, _, by rw [show n / 262144 = 4 by omega], by omega, by omega⟩
  · omega

theorem decodeFrom_encodeChar (c : Char) (rest : List Nat) :
    decodeFrom .between ((String.utf8EncodeChar c).map UInt8.toNat ++ rest) =
      c :: decodeFrom .between rest := by
  have code : Char.ofNat c.val.toNat = c := Char.ofNat_toNat c
  have valid : c.val.toNat < 0xD800 ∨ 0xDFFF < c.val.toNat ∧ c.val.toNat < 0x110000 := c.valid
  have byte {n : Nat} (small : n < 256) : (UInt8.ofNat n).toNat = n := by
    rw [UInt8.toNat_ofNat', Nat.mod_eq_of_lt small]
  have tail (m : Nat) : 0x80 ≤ m % 64 + 128 ∧ m % 64 + 128 ≤ 0xBF := by omega
  have bits (code m : Nat) : code * 64 + (m % 64 + 128) % 64 = code * 64 + m % 64 := by omega
  rw [String.utf8EncodeChar.eq_1]
  generalize c.val.toNat = n at code valid
  split
  · next small =>
    rw [List.map_cons, List.map_nil, List.singleton_append, byte (by omega)]
    simp only [decodeFrom, startByte, if_pos (show n < 0x80 by omega), code, List.singleton_append]
  split
  · next large small =>
    rw [show n / 64 % 32 + 192 = n / 64 + 192 by omega]
    simp only [List.map_cons, List.map_nil, List.cons_append, List.nil_append]
    rw [byte (by omega), byte (by omega), decodeFrom_lead (leadByte?_two (by omega) (by omega)),
      decodeFrom_last (tail n), bits, show n / 64 * 64 + n % 64 = n by omega, code]
  split
  · next large small =>
    rw [show n / 4096 % 16 + 224 = n / 4096 + 224 by omega]
    obtain ⟨low, high, lead, second⟩ := leadByte?_three (n := n) (by omega) (by omega) (by omega)
    simp only [List.map_cons, List.map_nil, List.cons_append, List.nil_append]
    rw [byte (by omega), byte (by omega), byte (by omega), decodeFrom_lead lead, decodeFrom_next second,
      decodeFrom_last (tail n), bits, bits, show (n / 4096 * 64 + n / 64 % 64) * 64 + n % 64 = n by omega, code]
  · next large =>
    rw [show n / 262144 % 8 + 240 = n / 262144 + 240 by omega]
    obtain ⟨low, high, lead, second⟩ := leadByte?_four (n := n) (by omega) (by omega)
    simp only [List.map_cons, List.map_nil, List.cons_append, List.nil_append]
    rw [byte (by omega), byte (by omega), byte (by omega), byte (by omega), decodeFrom_lead lead,
      decodeFrom_next second, decodeFrom_next (tail _), decodeFrom_last (tail n), bits, bits, bits,
      show ((n / 262144 * 64 + n / 4096 % 64) * 64 + n / 64 % 64) * 64 + n % 64 = n by omega, code]

theorem decodeUtf8_utf8 (text : List Char) : decodeUtf8 ((utf8 text).map UInt8.toNat) = text := by
  induction text with
  | nil => rfl
  | cons c text ih =>
    rw [decodeUtf8, utf8, List.flatMap_cons, List.map_append, decodeFrom_encodeChar]
    exact congrArg _ ih

end Text

namespace Base64

def alphabet : List Char := "ABCDEFGHIJKLMNOPQRSTUVWXYZabcdefghijklmnopqrstuvwxyz0123456789+/".toList

def symbol (code : Nat) : Char := alphabet.getD code '='

/-- Four symbols for three bytes, and as many as it takes for the last ones. -/
def symbolsOf : List UInt8 → List Char
  | [] => []
  | [a] => [symbol (a.toNat / 4), symbol (a.toNat % 4 * 16)]
  | [a, b] => [symbol (a.toNat / 4), symbol (a.toNat % 4 * 16 + b.toNat / 16), symbol (b.toNat % 16 * 4)]
  | a :: b :: c :: rest =>
    symbol (a.toNat / 4) :: symbol (a.toNat % 4 * 16 + b.toNat / 16) ::
      symbol (b.toNat % 16 * 4 + c.toNat / 64) :: symbol (c.toNat % 64) :: symbolsOf rest

def padding (count : Nat) : Nat := (3 - count % 3) % 3

def encode (bytes : List UInt8) : List Char :=
  symbolsOf bytes ++ List.replicate (padding bytes.length) '='

theorem symbol?_symbol {code : Nat} (small : code < 64) : symbol? (symbol code) = some code := by
  have each : ∀ code < 64, symbol? (symbol code) = some code := by decide +kernel
  exact each code small

theorem decode?_short {group : List Char} (isThere : group ≠ []) (short : group.length ≤ 4) :
    decode? group = lastBytes? group := by
  rw [decode?]
  · exact isThere
  · rintro a b c d e rest rfl
    simp only [List.length_cons] at short
    omega

section Groups

variable {a b c d : Nat} (aSmall : a < 64) (bSmall : b < 64)

include aSmall bSmall

theorem lastBytes?_two {left : Nat} (atMost : left ≤ 2) :
    lastBytes? (symbol a :: symbol b :: List.replicate left '=') = some [a * 4 + b / 16] := by
  have two : lastBytes? [symbol a, symbol b] = some [a * 4 + b / 16] := by
    rw [lastBytes?, symbol?_symbol aSmall, symbol?_symbol bSmall]
  have padding : symbol? '=' = none := rfl
  obtain rfl | rfl | rfl : left = 0 ∨ left = 1 ∨ left = 2 := by omega
  · exact two
  · show lastBytes? [symbol a, symbol b, '='] = _
    rw [lastBytes?, symbol?_symbol aSmall, symbol?_symbol bSmall, padding]
    exact two
  · show lastBytes? [symbol a, symbol b, '=', '='] = _
    rw [lastBytes?, symbol?_symbol aSmall, symbol?_symbol bSmall, padding]
    exact two

variable (cSmall : c < 64)

include cSmall

theorem lastBytes?_three {left : Nat} (atMost : left ≤ 1) :
    lastBytes? (symbol a :: symbol b :: symbol c :: List.replicate left '=') =
      some [a * 4 + b / 16, b % 16 * 16 + c / 4] := by
  have three : lastBytes? [symbol a, symbol b, symbol c] = some [a * 4 + b / 16, b % 16 * 16 + c / 4] := by
    rw [lastBytes?, symbol?_symbol aSmall, symbol?_symbol bSmall, symbol?_symbol cSmall]
  have padding : symbol? '=' = none := rfl
  obtain rfl | rfl : left = 0 ∨ left = 1 := by omega
  · exact three
  · show lastBytes? [symbol a, symbol b, symbol c, '='] = _
    rw [lastBytes?, symbol?_symbol aSmall, symbol?_symbol bSmall, symbol?_symbol cSmall, padding]
    exact three

variable (dSmall : d < 64)

include dSmall

theorem lastBytes?_four :
    lastBytes? [symbol a, symbol b, symbol c, symbol d] =
      some [a * 4 + b / 16, b % 16 * 16 + c / 4, c % 4 * 64 + d] := by
  rw [lastBytes?, symbol?_symbol aSmall, symbol?_symbol bSmall, symbol?_symbol cSmall, symbol?_symbol dSmall]

theorem decode?_four {rest : List Char} (isThere : rest ≠ []) :
    decode? (symbol a :: symbol b :: symbol c :: symbol d :: rest) =
      (decode? rest).map fun bytes =>
        (a * 4 + b / 16) :: (b % 16 * 16 + c / 4) :: (c % 4 * 64 + d) :: bytes := by
  obtain ⟨e, rest, rfl⟩ := List.exists_cons_of_ne_nil isThere
  rw [decode?, symbol?_symbol aSmall, symbol?_symbol bSmall, symbol?_symbol cSmall, symbol?_symbol dSmall]

end Groups

theorem decode?_symbolsOf (bytes : List UInt8) {left : Nat} (atMost : left ≤ padding bytes.length) :
    decode? (symbolsOf bytes ++ List.replicate left '=') = some (bytes.map UInt8.toNat) := by
  induction bytes using symbolsOf.induct with
  | case1 =>
    obtain rfl := Nat.le_zero.mp atMost
    rfl
  | case2 a =>
    have bound := a.toNat_lt
    replace atMost : left ≤ 2 := atMost
    rw [symbolsOf, List.cons_append, List.singleton_append,
      decode?_short (List.cons_ne_nil _ _) (by simp only [List.length_cons, List.length_replicate]; omega),
      lastBytes?_two (by omega) (by omega) atMost]
    simp only [List.map_cons, List.map_nil, Option.some.injEq, List.cons.injEq, and_true]
    omega
  | case3 a b =>
    have aBound := a.toNat_lt
    have bBound := b.toNat_lt
    replace atMost : left ≤ 1 := atMost
    rw [symbolsOf, List.cons_append, List.cons_append, List.singleton_append,
      decode?_short (List.cons_ne_nil _ _) (by simp only [List.length_cons, List.length_replicate]; omega),
      lastBytes?_three (by omega) (by omega) (by omega) atMost]
    simp only [List.map_cons, List.map_nil, Option.some.injEq, List.cons.injEq, and_true]
    omega
  | case4 a b c rest ih =>
    have aBound := a.toNat_lt
    have bBound := b.toNat_lt
    have cBound := c.toNat_lt
    have parts : [a.toNat / 4 * 4 + (a.toNat % 4 * 16 + b.toNat / 16) / 16,
        (a.toNat % 4 * 16 + b.toNat / 16) % 16 * 16 + (b.toNat % 16 * 4 + c.toNat / 64) / 4,
        (b.toNat % 16 * 4 + c.toNat / 64) % 4 * 64 + c.toNat % 64] = [a.toNat, b.toNat, c.toNat] := by
      simp only [List.cons.injEq, and_true]
      omega
    have isPadding : padding (a :: b :: c :: rest).length = padding rest.length := by
      simp only [padding, List.length_cons]
      omega
    rw [isPadding] at atMost
    obtain ⟨first, others⟩ := List.cons.inj parts
    obtain ⟨second, third⟩ := List.cons.inj others
    rw [symbolsOf, List.map_cons, List.map_cons, List.map_cons]
    simp only [List.cons_append]
    rcases rest with _ | ⟨d, rest⟩
    · obtain rfl := Nat.le_zero.mp atMost
      rw [decode?_short (List.cons_ne_nil _ _) (by simp [symbolsOf])]
      refine (lastBytes?_four (by omega) (by omega) (by omega) (by omega)).trans ?_
      rw [parts]
      rfl
    · have goesOn : symbolsOf (d :: rest) ++ List.replicate left '=' ≠ [] := by
        rcases rest with _ | ⟨e, _ | ⟨f, rest⟩⟩ <;> exact List.cons_ne_nil _ _
      rw [decode?_four (by omega) (by omega) (by omega) (by omega) goesOn, ih atMost, Option.map_some, first,
        second, (List.cons.inj third).1]

theorem symbol_mem {code : Nat} (small : code < 64) : symbol code ∈ alphabet := by
  have each : ∀ code < 64, symbol code ∈ alphabet := by decide +kernel
  exact each code small

theorem symbolsOf_subset (bytes : List UInt8) : symbolsOf bytes ⊆ alphabet := by
  induction bytes using symbolsOf.induct with
  | case1 => exact List.nil_subset _
  | case2 a =>
    have bound := a.toNat_lt
    simp only [symbolsOf, List.cons_subset, List.nil_subset, and_true]
    exact ⟨symbol_mem (by omega), symbol_mem (by omega)⟩
  | case3 a b =>
    have aBound := a.toNat_lt
    have bBound := b.toNat_lt
    simp only [symbolsOf, List.cons_subset, List.nil_subset, and_true]
    exact ⟨symbol_mem (by omega), symbol_mem (by omega), symbol_mem (by omega)⟩
  | case4 a b c rest ih =>
    have aBound := a.toNat_lt
    have bBound := b.toNat_lt
    have cBound := c.toNat_lt
    simp only [symbolsOf, List.cons_subset]
    exact ⟨symbol_mem (by omega), symbol_mem (by omega), symbol_mem (by omega), symbol_mem (by omega), ih⟩

theorem decode?_of_padded {bytes : List UInt8} {kept : List Char} {dropped : Nat}
    (padded : kept ++ List.replicate dropped '=' = encode bytes) :
    decode? kept = some (bytes.map UInt8.toNat) := by
  rcases List.append_eq_append_iff.mp padded with ⟨missing, isSymbols, isDropped⟩ | ⟨left, rfl, isPadding⟩
  · obtain ⟨_, isPadding, _⟩ := List.replicate_eq_append_iff.mp isDropped
    have none : missing = [] := by
      refine List.eq_nil_iff_forall_not_mem.mpr fun c member => ?_
      have isSymbol : c ∈ symbolsOf bytes := by
        rw [isSymbols]
        exact List.mem_append_right _ member
      rw [isPadding] at member
      obtain rfl := List.eq_of_mem_replicate member
      exact absurd (symbolsOf_subset bytes isSymbol) (by decide)
    rw [none, List.append_nil] at isSymbols
    have read := decode?_symbolsOf bytes (Nat.zero_le _)
    rwa [List.replicate_zero, List.append_nil, isSymbols] at read
  · obtain ⟨isLength, isLeft, _⟩ := List.replicate_eq_append_iff.mp isPadding
    rw [isLeft]
    exact decode?_symbolsOf bytes (by omega)

end Base64
end WireContract
