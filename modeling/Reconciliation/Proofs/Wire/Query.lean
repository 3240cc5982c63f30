import Mathlib.Data.List.TakeWhile
import Reconciliation.Http.Message

/-!
# Addresses read back

What a client writes behind a path arrives: a server that takes an address apart finds the path and
the parameters that the address was made from. A path may hold what is allowed in one, but neither
of the two marks that end it.

* `Utf8.next_utf8EncodeChar`, `Utf8.decode_encode` -- characters are read from their bytes;
* `Query.decodeText_encodeText`, **`Query.decode_encode`** -- names and values, and parameters;
* `RequestTarget.ofAddress?_path`, **`RequestTarget.ofAddress?_parameters`** -- the target of an
  address, without and with parameters.
-/

namespace Reconciliation

/-! ## 1. Characters -/

namespace Utf8

theorem toNat_ofNat {n : Nat} (h : n < 256) : (UInt8.ofNat n).toNat = n := by
  rw [UInt8.toNat_ofNat', Nat.mod_eq_of_lt h]

/-- A byte that goes on with a code point. -/
theorem readOn_succ {low high point n b : Nat} (hb : b < 256) (hlow : low ≤ b) (hhigh : b ≤ high)
    (bs : List UInt8) :
    readOn low high point (n + 1) (UInt8.ofNat b :: bs) =
      readOn 0x80 0xBF (point * 64 + b % 64) n bs := by
  rw [readOn, toNat_ofNat hb, if_pos ⟨hlow, hhigh⟩]

/-- The first of two bytes. -/
theorem lead?_two {v : Nat} (hlow : 127 < v) (hhigh : v ≤ 2047) :
    lead? (v / 64 % 32 + 192) = some ⟨v / 64, 1, 0x80, 0xBF⟩ := by
  have hpart : v / 64 % 32 + 192 - 192 = v / 64 := by omega
  rw [lead?, if_neg (by omega), if_neg (by omega), if_pos (by omega), hpart]

/-- The first of three bytes: the second one stays within its bounds. -/
theorem lead?_three {v : Nat} (hlow : 2047 < v) (hhigh : v ≤ 65535)
    (hvalid : v < 0xD800 ∨ 0xDFFF < v) :
    ∃ low high, lead? (v / 4096 % 16 + 224) = some ⟨v / 4096, 2, low, high⟩ ∧
      low ≤ v / 64 % 64 + 128 ∧ v / 64 % 64 + 128 ≤ high := by
  have hpart : v / 4096 % 16 + 224 - 224 = v / 4096 := by omega
  rw [lead?, if_neg (by omega), if_neg (by omega), if_neg (by omega), if_pos (by omega), hpart]
  exact ⟨_, _, rfl, by split <;> omega, by split <;> omega⟩

/-- The first of four bytes, likewise. -/
theorem lead?_four {v : Nat} (hlow : 65535 < v) (hhigh : v < 0x110000) :
    ∃ low high, lead? (v / 262144 % 8 + 240) = some ⟨v / 262144, 3, low, high⟩ ∧
      low ≤ v / 4096 % 64 + 128 ∧ v / 4096 % 64 + 128 ≤ high := by
  have hpart : v / 262144 % 8 + 240 - 240 = v / 262144 := by omega
  rw [lead?, if_neg (by omega), if_neg (by omega), if_neg (by omega), if_neg (by omega),
    if_pos (by omega), hpart]
  exact ⟨_, _, rfl, by split <;> omega, by split <;> omega⟩

/-- **A character is read from its bytes**, whatever follows. -/
theorem next_utf8EncodeChar (c : Char) (bs : List UInt8) : ∃ b rest,
    String.utf8EncodeChar c = b :: rest ∧ next b (rest ++ bs) = (some c.toNat, bs) := by
  have hvalid : c.toNat < 0xD800 ∨ 0xDFFF < c.toNat ∧ c.toNat < 0x110000 := c.valid
  have hbytes : String.utf8EncodeChar c = _ := String.utf8EncodeChar.eq_1 c
  have hval : c.val.toNat = c.toNat := rfl
  rw [hval] at hbytes
  generalize c.toNat = v at *
  by_cases h₁ : v ≤ 127
  · rw [if_pos h₁] at hbytes
    refine ⟨_, _, hbytes, ?_⟩
    have hlead : lead? v = some ⟨v, 0, 0, 0⟩ := if_pos (by omega)
    rw [next, toNat_ofNat (by omega), hlead]
    rfl
  by_cases h₂ : v ≤ 2047
  · rw [if_neg h₁, if_pos h₂] at hbytes
    refine ⟨_, _, hbytes, ?_⟩
    rw [next, toNat_ofNat (by omega), lead?_two (by omega) h₂]
    show readOn 0x80 0xBF (v / 64) 1 (_ :: _) = _
    rw [readOn_succ (by omega) (by omega) (by omega), readOn]
    exact Prod.ext (congrArg some (by omega)) rfl
  by_cases h₃ : v ≤ 65535
  · rw [if_neg h₁, if_neg h₂, if_pos h₃] at hbytes
    refine ⟨_, _, hbytes, ?_⟩
    obtain ⟨low, high, hlead, hlow, hhigh⟩ := lead?_three (v := v) (by omega) h₃ (by omega)
    rw [next, toNat_ofNat (by omega), hlead]
    show readOn low high (v / 4096) 2 (_ :: _ :: _) = _
    rw [readOn_succ (by omega) hlow hhigh, readOn_succ (by omega) (by omega) (by omega), readOn]
    exact Prod.ext (congrArg some (by omega)) rfl
  · rw [if_neg h₁, if_neg h₂, if_neg h₃] at hbytes
    refine ⟨_, _, hbytes, ?_⟩
    obtain ⟨low, high, hlead, hlow, hhigh⟩ := lead?_four (v := v) (by omega) (by omega)
    rw [next, toNat_ofNat (by omega), hlead]
    show readOn low high (v / 262144) 3 (_ :: _ :: _ :: _) = _
    rw [readOn_succ (by omega) hlow hhigh, readOn_succ (by omega) (by omega) (by omega),
      readOn_succ (by omega) (by omega) (by omega), readOn]
    exact Prod.ext (congrArg some (by omega)) rfl

/-- **What is written is read back.** -/
theorem decode_encode (cs : List Char) : decode (cs.flatMap String.utf8EncodeChar) = cs := by
  induction cs with
  | nil => rw [List.flatMap_nil, decode]
  | cons c cs ih =>
    obtain ⟨b, rest, hbytes, hnext⟩ := next_utf8EncodeChar c (cs.flatMap String.utf8EncodeChar)
    rw [List.flatMap_cons, hbytes, List.cons_append, decode, hnext, ih]
    simp [Char.ofNat_toNat]

end Utf8

/-! ## 2. Names and values -/

namespace Query

/-- The characters that written names and values consist of. -/
def isWritten (c : Char) : Bool := c.isAlphanum || ['*', '-', '.', '_', '+', '%'].contains c

theorem toNat_of_isAlphanum {c : Char} (h : c.isAlphanum = true) :
    48 ≤ c.toNat ∧ c.toNat ≤ 122 := by
  have hbetween : ∀ {l r : UInt32}, l ≤ c.val ∧ c.val ≤ r → 48 ≤ l.toNat → r.toNat ≤ 122 →
      48 ≤ c.toNat ∧ c.toNat ≤ 122 := fun h hl hr =>
    ⟨Nat.le_trans hl (UInt32.le_iff_toNat_le.1 h.1),
      Nat.le_trans (UInt32.le_iff_toNat_le.1 h.2) hr⟩
  have hcases : ((c.isUpper || c.isLower) || c.isDigit) = true := h
  rw [Bool.or_eq_true_iff, Bool.or_eq_true_iff] at hcases
  obtain (hupper | hlower) | hdigit := hcases
  · exact hbetween (of_decide_eq_true hupper) (by decide) (by decide)
  · obtain ⟨hl, hr⟩ := Bool.and_eq_true_iff.1 hlower
    exact hbetween ⟨of_decide_eq_true hl, of_decide_eq_true hr⟩ (by decide) (by decide)
  · obtain ⟨hl, hr⟩ := Bool.and_eq_true_iff.1 hdigit
    exact hbetween ⟨of_decide_eq_true hl, of_decide_eq_true hr⟩ (by decide) (by decide)

theorem isWritten_hexDigit {n : Nat} (h : n < 16) : isWritten (hexDigit n) = true := by
  have hall : ∀ d < 16, isWritten (hexDigit d) = true := by decide
  exact hall n h

theorem hexValue?_hexDigit {n : Nat} (h : n < 16) : Digits.hexValue? (hexDigit n) = some n := by
  have hall : ∀ d < 16, Digits.hexValue? (hexDigit d) = some d := by decide
  exact hall n h

/-- What is written as it stands is one byte, and no mark of the format. -/
theorem plain_of_written (b : UInt8)
    (h : ((Char.ofNat b.toNat).isAlphanum || ['*', '-', '.', '_'].contains (Char.ofNat b.toNat)) =
      true) :
    isWritten (Char.ofNat b.toNat) = true ∧ Char.ofNat b.toNat ≠ '%' ∧
      Char.ofNat b.toNat ≠ '+' ∧ String.utf8EncodeChar (Char.ofNat b.toNat) = [b] := by
  have hall : ∀ n < 256,
      ((Char.ofNat n).isAlphanum || ['*', '-', '.', '_'].contains (Char.ofNat n)) = true →
        isWritten (Char.ofNat n) = true ∧ Char.ofNat n ≠ '%' ∧ Char.ofNat n ≠ '+' ∧
          String.utf8EncodeChar (Char.ofNat n) = [UInt8.ofNat n] := by
    decide +kernel
  simpa using hall b.toNat b.toNat_lt h

theorem isWritten_of_mem_encodeByte {b : UInt8} {c : Char} (hc : c ∈ encodeByte b) :
    isWritten c = true := by
  have hb : b.toNat < 256 := b.toNat_lt
  unfold encodeByte at hc
  dsimp only at hc
  split at hc
  · rename_i h
    obtain rfl := List.mem_singleton.1 hc
    exact (plain_of_written b h).1
  · split at hc
    · obtain rfl := List.mem_singleton.1 hc
      decide
    · simp only [List.mem_cons, List.not_mem_nil, or_false] at hc
      rcases hc with rfl | rfl | rfl
      · decide
      · exact isWritten_hexDigit (by omega)
      · exact isWritten_hexDigit (by omega)

theorem bytes_encodeByte (b : UInt8) (rest : List Char) :
    bytes (encodeByte b ++ rest) = b :: bytes rest := by
  have hb : b.toNat < 256 := b.toNat_lt
  unfold encodeByte
  dsimp only
  split
  · rename_i h
    obtain ⟨-, hpercent, hplus, hbytes⟩ := plain_of_written b h
    rw [List.singleton_append, bytes, hbytes]
    · rfl
    · exact fun _ _ _ hc => absurd hc hpercent
    · exact fun hc => absurd hc hplus
  · split
    · rename_i h
      have hall : ∀ n < 256, Char.ofNat n = ' ' → n = 0x20 := by decide +kernel
      obtain rfl : b = 0x20 := UInt8.toNat_inj.1 (hall b.toNat hb h)
      rfl
    · show bytes ('%' :: hexDigit (b.toNat / 16) :: hexDigit (b.toNat % 16) :: rest) = _
      rw [bytes, hexValue?_hexDigit (by omega), hexValue?_hexDigit (by omega)]
      have hvalue : 16 * (b.toNat / 16) + b.toNat % 16 = b.toNat := by omega
      simp [hvalue]

/-- A name or value is read from its characters. -/
theorem decodeText_encodeText (s : String) : decodeText (encodeText s).toList = s := by
  have hbytes : ∀ bs : List UInt8, bytes (bs.flatMap encodeByte) = bs := by
    intro bs
    induction bs with
    | nil => rfl
    | cons b bs ih => rw [List.flatMap_cons, bytes_encodeByte, ih]
  unfold decodeText encodeText
  rw [String.toList_ofList, ← List.flatMap_assoc, hbytes, Utf8.decode_encode, String.ofList_toList]

theorem isWritten_of_mem_encodeText {s : String} {c : Char} (hc : c ∈ (encodeText s).toList) :
    isWritten c = true := by
  unfold encodeText at hc
  rw [String.toList_ofList] at hc
  obtain ⟨_, -, hc⟩ := List.mem_flatMap.1 hc
  obtain ⟨b, -, hc⟩ := List.mem_flatMap.1 hc
  exact isWritten_of_mem_encodeByte hc

/-! ## 3. Parameters -/

/-- The characters of a parameter. -/
def parameterChars (p : String × String) : List Char :=
  (encodeText p.1).toList ++ '=' :: (encodeText p.2).toList

theorem not_mem_encodeText {s : String} {c : Char} (h : isWritten c = false) :
    c ∉ (encodeText s).toList := by
  intro hc
  rw [isWritten_of_mem_encodeText hc] at h
  cases h

theorem parameter_parameterChars (p : String × String) : parameter (parameterChars p) = p := by
  have hequals : '=' ∉ (encodeText p.1).toList := not_mem_encodeText (by decide)
  have hname : ∀ c ∈ (encodeText p.1).toList, (c != '=') = true := by
    intro c hc
    simp only [bne_iff_ne, ne_eq]
    rintro rfl
    exact hequals hc
  unfold parameter parameterChars
  rw [List.takeWhile_append_of_pos hname, List.dropWhile_append_of_pos hname]
  simp [decodeText_encodeText]

theorem toList_encode (ps : List (String × String)) :
    (encode ps).toList = ps.flatMap fun p => '&' :: parameterChars p := by
  simp [encode, String.toList_join, List.flatMap_map, parameterChars]

/-- The parameters behind a first part without ampersand. -/
theorem splitOn_parameters (ps : List (String × String)) {front : List Char} (h : '&' ∉ front) :
    (front ++ ps.flatMap fun p => '&' :: parameterChars p).splitOn '&' =
      front :: ps.map parameterChars := by
  induction ps generalizing front with
  | nil => simp [List.splitOn_eq_singleton h]
  | cons p ps ih =>
    have hp : '&' ∉ parameterChars p := by
      simp [parameterChars, not_mem_encodeText (c := '&') (by decide)]
    rw [List.flatMap_cons, List.cons_append, List.splitOn_append_cons_self_of_not_mem h, ih hp]
    rfl

/-- **The parameters are read from their query string.** -/
theorem decode_encode (ps : List (String × String)) : decode (encode ps) = ps := by
  unfold decode
  rw [toList_encode, ← List.nil_append (ps.flatMap _), splitOn_parameters ps List.not_mem_nil]
  have hfilter : (([] : List Char) :: ps.map parameterChars).filter (!·.isEmpty) =
      ps.map parameterChars := by
    rw [List.filter_cons_of_neg (by simp)]
    refine List.filter_eq_self.2 fun part hpart => ?_
    obtain ⟨p, -, rfl⟩ := List.mem_map.1 hpart
    simp [parameterChars]
  rw [hfilter, List.map_map]
  exact List.map_id'' parameter_parameterChars ps

end Query

/-! ## 4. Targets -/

namespace RequestTarget

theorem allowedInQuery_of_isWritten {c : Char} (h : Query.isWritten c = true) :
    allowedInQuery c = true ∧ c ≠ '#' := by
  have hrange : 0x20 < c.toNat ∧ c.toNat < 0x7F := by
    unfold Query.isWritten at h
    rcases Bool.or_eq_true_iff.1 h with h | h
    · have hbounds := Query.toNat_of_isAlphanum h
      omega
    · simp only [List.contains_eq_mem, decide_eq_true_eq, List.mem_cons, List.not_mem_nil,
        or_false] at h
      rcases h with rfl | rfl | rfl | rfl | rfl | rfl <;> decide
  have hne : ∀ d, Query.isWritten d = false → c ≠ d := by
    rintro d hd rfl
    rw [h] at hd
    cases hd
  have hvisible : isVisible c = true := by
    simp only [isVisible, Bool.and_eq_true, decide_eq_true_eq, bne_iff_ne, ne_eq]
    omega
  refine ⟨?_, hne '#' (by decide)⟩
  simp [allowedInQuery, hvisible, hne '"' (by decide), hne '<' (by decide), hne '>' (by decide)]

/-- An address of more bytes names no target. -/
theorem ofAddress?_of_lt {address : String} (h : 65534 < address.utf8ByteSize) :
    ofAddress? address = none := by
  unfold ofAddress?
  refine if_neg fun hc => ?_
  simp only [Bool.and_eq_true, decide_eq_true_eq] at hc
  omega

/-- The characters may stand in the path of an address, and none of them ends it. -/
def IsPath (s : String) : Prop := ∀ c ∈ s.toList, allowedInPath c = true ∧ c ≠ '?' ∧ c ≠ '#'

-- A search for an instance might go through all characters instead of those of the text.
instance (s : String) : Decidable (IsPath s) := List.decidableBAll _ s.toList

variable {path : String} (hpath : IsPath path)

include hpath

/-- **The target of an address without query string.** -/
theorem ofAddress?_path (hsize : path.utf8ByteSize ≤ 65534) :
    ofAddress? path = some ⟨path, ""⟩ := by
  have hsent : path.toList.takeWhile (· != '#') = path.toList :=
    List.takeWhile_eq_self_iff.2 fun c hc => by simpa using (hpath c hc).2.2
  have hmark : ∀ c ∈ path.toList, (c != '?') = true :=
    fun c hc => by simpa using (hpath c hc).2.1
  have hallowed : path.toList.all allowedInPath = true :=
    List.all_eq_true.2 fun c hc => (hpath c hc).1
  unfold ofAddress?
  simp only [hsent, List.takeWhile_eq_self_iff.2 hmark, List.dropWhile_eq_nil_iff.2 hmark]
  simp [hsize, hallowed]

/-- **The target of an address** is its path, with its parameters. -/
theorem ofAddress?_parameters {ps : List (String × String)}
    (hsize : (path ++ "?" ++ Query.encode ps).utf8ByteSize ≤ 65534) :
    ofAddress? (path ++ "?" ++ Query.encode ps) = some ⟨path, Query.encode ps⟩ := by
  have hquery : ∀ c ∈ (Query.encode ps).toList, allowedInQuery c = true ∧ c ≠ '#' := by
    intro c hc
    rw [Query.toList_encode] at hc
    obtain ⟨p, -, hc⟩ := List.mem_flatMap.1 hc
    simp only [Query.parameterChars, List.mem_cons, List.mem_append] at hc
    rcases hc with rfl | hc | rfl | hc
    · decide
    · exact allowedInQuery_of_isWritten (Query.isWritten_of_mem_encodeText hc)
    · decide
    · exact allowedInQuery_of_isWritten (Query.isWritten_of_mem_encodeText hc)
  have hshape : (path ++ "?" ++ Query.encode ps).toList =
      path.toList ++ '?' :: (Query.encode ps).toList := by simp
  have hsent : (path.toList ++ '?' :: (Query.encode ps).toList).takeWhile (· != '#') =
      path.toList ++ '?' :: (Query.encode ps).toList := by
    refine List.takeWhile_eq_self_iff.2 fun c hc => ?_
    rcases List.mem_append.1 hc with hc | hc
    · simpa using (hpath c hc).2.2
    · rcases List.mem_cons.1 hc with rfl | hc
      · decide
      · simpa using (hquery c hc).2
  have hmark : ∀ c ∈ path.toList, (c != '?') = true :=
    fun c hc => by simpa using (hpath c hc).2.1
  have hallowed : path.toList.all allowedInPath = true :=
    List.all_eq_true.2 fun c hc => (hpath c hc).1
  have hallowed' : (Query.encode ps).toList.all allowedInQuery = true :=
    List.all_eq_true.2 fun c hc => (hquery c hc).1
  unfold ofAddress?
  simp only [hshape, hsent, List.takeWhile_append_of_pos hmark, List.dropWhile_append_of_pos hmark]
  simp only [String.utf8ByteSize_append] at hsize ⊢
  simp [hsize, hallowed, hallowed']

omit hpath in
theorem parameters_encode (path : String) (ps : List (String × String)) :
    parameters ⟨path, Query.encode ps⟩ = ps := Query.decode_encode ps

end RequestTarget

end Reconciliation
