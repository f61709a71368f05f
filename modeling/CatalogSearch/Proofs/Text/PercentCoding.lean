import CatalogSearch.Text.Percent

/-!
# Reading percent-coded text back

A coded text reads back as the bytes that were coded, so no two texts are coded alike. It is made
of unreserved characters and escapes alone, so it holds no character that a path or a query gives
a meaning to.
-/
namespace CatalogSearch.Text

theorem byteArray_toList (bytes : ByteArray) : bytes.toList = bytes.data.toList := by
  have loop (i : Nat) (done : List UInt8) : ByteArray.toList.loop bytes i done =
      done.reverse ++ bytes.data.toList.drop i := by
    fun_induction ByteArray.toList.loop bytes i done with
    | case1 i done inside ih =>
      have here : i < bytes.data.toList.length := inside
      have byte : bytes.get! i = bytes.data.toList[i] := by
        change bytes.data[i]! = _
        rw [getElem!_pos bytes.data i inside]
        rfl
      rw [ih, List.drop_eq_getElem_cons here, byte]
      simp
    | case2 i done outside =>
      have past : bytes.data.toList.length ≤ i := Nat.le_of_not_lt outside
      rw [List.drop_eq_nil_of_le past, List.append_nil]
  exact loop 0 []

theorem utf8_eq (s : String) : utf8 s = s.toList.flatMap String.utf8EncodeChar := by
  have bytes : s.toByteArray = s.toList.utf8Encode := by
    rw [← String.toByteArray_ofList, String.ofList_toList]
  rw [utf8, byteArray_toList, String.toUTF8, bytes, List.utf8Encode, List.toList_data_toByteArray]

theorem utf8_injective {s t : String} (same : utf8 s = utf8 t) : s = t := by
  rw [utf8, utf8, byteArray_toList, byteArray_toList] at same
  apply String.toByteArray_inj.1
  exact ByteArray.ext (Array.toList_inj.1 same)

theorem hexValue?_upperHexDigit {n : Nat} (digit : n < 16) :
    hexValue? (upperHexDigit n) = some n := by
  have all : ∀ n < 16, hexValue? (upperHexDigit n) = some n := by decide
  exact all n digit

/-- An unreserved character is one byte, and it is no percent sign. -/
theorem utf8_unreserved {b : UInt8} (unreserved : isUnreserved (Char.ofNat b.toNat)) :
    Char.ofNat b.toNat ≠ '%' ∧ utf8 (String.singleton (Char.ofNat b.toNat)) = [b] := by
  have all : ∀ n < 256, isUnreserved (Char.ofNat n) →
      Char.ofNat n ≠ '%' ∧ String.utf8EncodeChar (Char.ofNat n) = [UInt8.ofNat n] := by
    decide +kernel
  have here := all b.toNat (UInt8.toNat_lt b) unreserved
  rw [UInt8.ofNat_toNat] at here
  refine ⟨here.1, ?_⟩
  rw [utf8_eq, String.toList_singleton]
  simpa using here.2

theorem uriDecode_encodeByte (b : UInt8) (rest : List Char) :
    uriDecode (encodeByte b ++ rest) = b :: uriDecode rest := by
  rw [encodeByte]
  split
  · rename_i unreserved
    obtain ⟨plain, byte⟩ := utf8_unreserved unreserved
    rw [List.singleton_append, uriDecode, byte]
    · rfl
    · intro x y more sign
      exact absurd sign plain
  · have high : b.toNat / 16 < 16 := by have := UInt8.toNat_lt b; omega
    have low : b.toNat % 16 < 16 := Nat.mod_lt _ (by decide)
    have whole : 16 * (b.toNat / 16) + b.toNat % 16 = b.toNat := by omega
    simp only [escapeByte, List.cons_append, List.nil_append, uriDecode,
      hexValue?_upperHexDigit high, hexValue?_upperHexDigit low, whole, UInt8.ofNat_toNat]

theorem uriDecode_uriEncode (s : String) : uriDecode (uriEncode s).toList = utf8 s := by
  rw [uriEncode, String.toList_ofList]
  induction utf8 s with
  | nil => rfl
  | cons b bytes ih => rw [List.flatMap_cons, uriDecode_encodeByte, ih]

theorem uriEncode_injective : Function.Injective uriEncode := by
  intro s t same
  apply utf8_injective
  rw [← uriDecode_uriEncode s, ← uriDecode_uriEncode t, same]

/-- Made of unreserved characters, and of percent signs with two upper-case hexadecimal digits
behind them. -/
inductive PercentCoded : List Char → Prop where
  | done : PercentCoded []
  | plain {c : Char} {rest : List Char} (unreserved : isUnreserved c = true)
      (coded : PercentCoded rest) : PercentCoded (c :: rest)
  | escape {high low : Nat} {rest : List Char} (first : high < 16) (second : low < 16)
      (coded : PercentCoded rest) :
      PercentCoded ('%' :: upperHexDigit high :: upperHexDigit low :: rest)

theorem PercentCoded.encodeByte_append (b : UInt8) {rest : List Char} (coded : PercentCoded rest) :
    PercentCoded (encodeByte b ++ rest) := by
  rw [encodeByte]
  split
  · next unreserved => exact .plain unreserved coded
  · have byte := UInt8.toNat_lt b
    exact .escape (by omega) (by omega) coded

theorem percentCoded_uriEncode (s : String) : PercentCoded (uriEncode s).toList := by
  rw [uriEncode, String.toList_ofList]
  induction utf8 s with
  | nil => exact .done
  | cons b bytes ih => exact .encodeByte_append b ih

theorem isUnreserved_upperHexDigit {n : Nat} (digit : n < 16) :
    isUnreserved (upperHexDigit n) = true := by
  have all : ∀ n < 16, isUnreserved (upperHexDigit n) = true := by decide
  exact all n digit

/-- The digits of an escape are unreserved themselves. -/
theorem PercentCoded.of_mem {s : List Char} (coded : PercentCoded s) {c : Char} (mem : c ∈ s) :
    isUnreserved c = true ∨ c = '%' := by
  induction coded with
  | done => cases mem
  | plain unreserved _ ih =>
    rcases List.mem_cons.1 mem with rfl | later
    · exact .inl unreserved
    · exact ih later
  | escape first second _ ih =>
    rcases List.mem_cons.1 mem with rfl | digits
    · exact .inr rfl
    rcases List.mem_cons.1 digits with rfl | digits
    · exact .inl (isUnreserved_upperHexDigit first)
    rcases List.mem_cons.1 digits with rfl | later
    · exact .inl (isUnreserved_upperHexDigit second)
    · exact ih later

/-- A coded text holds no reserved character but the percent sign. -/
theorem not_mem_uriEncode (s : String) {c : Char} (reserved : isUnreserved c = false)
    (other : c ≠ '%') : c ∉ (uriEncode s).toList := by
  intro mem
  rcases (percentCoded_uriEncode s).of_mem mem with unreserved | sign
  · rw [reserved] at unreserved
    cases unreserved
  · exact other sign

theorem slash_not_mem_uriEncode (s : String) : '/' ∉ (uriEncode s).toList :=
  not_mem_uriEncode s (by decide) (by decide)

end CatalogSearch.Text
