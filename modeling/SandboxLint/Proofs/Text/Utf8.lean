import SandboxLint.Text.Utf8

/-!
Texts that are read back. Each character begins with a byte that announces how many bytes
follow, and those carry the rest of its number, six bits each. So what is written in UTF-8 is
read as it was, except that a byte order mark at the beginning of a file is left out.
-/

namespace SandboxLint.Text

theorem lead?_of_single {b : UInt8} (hhigh : b.toNat < 0x80) :
    lead? b = some ⟨b.toNat, 0, 0x80, 0xBF⟩ := by
  rw [lead?]
  grind

theorem lead?_of_pair {b : UInt8} (hlow : 0xC2 ≤ b.toNat) (hhigh : b.toNat < 0xE0) :
    lead? b = some ⟨b.toNat - 0xC0, 1, 0x80, 0xBF⟩ := by
  rw [lead?]
  grind

theorem lead?_of_triple {b : UInt8} (hlow : 0xE0 ≤ b.toNat) (hhigh : b.toNat < 0xF0) :
    lead? b = some ⟨b.toNat - 0xE0, 2, if b.toNat = 0xE0 then 0xA0 else 0x80,
      if b.toNat = 0xED then 0x9F else 0xBF⟩ := by
  rw [lead?]
  grind

theorem lead?_of_quadruple {b : UInt8} (hlow : 0xF0 ≤ b.toNat) (hhigh : b.toNat ≤ 0xF4) :
    lead? b = some ⟨b.toNat - 0xF0, 3, if b.toNat = 0xF0 then 0x90 else 0x80,
      if b.toNat = 0xF4 then 0x8F else 0xBF⟩ := by
  rw [lead?]
  grind

theorem decodeFrom_ready_of_lead {b : UInt8} {bits due low high : Nat} {rest : List UInt8}
    (h : lead? b = some ⟨bits, due + 1, low, high⟩) :
    decodeFrom .ready (b :: rest) = decodeFrom (.inside bits due low high) rest := by
  simp [decodeFrom, begin?, h]

theorem decodeFrom_inside {b : UInt8} {bits due low high : Nat} {rest : List UInt8}
    (hlow : low ≤ b.toNat) (hhigh : b.toNat ≤ high) :
    decodeFrom (.inside bits (due + 1) low high) (b :: rest) =
      decodeFrom (.inside (bits * 64 + b.toNat % 64) due 0x80 0xBF) rest := by
  simp [decodeFrom, hlow, hhigh]

theorem decodeFrom_inside_last {b : UInt8} {bits low high : Nat} {rest : List UInt8}
    (hlow : low ≤ b.toNat) (hhigh : b.toNat ≤ high) :
    decodeFrom (.inside bits 0 low high) (b :: rest) =
      Char.ofNat (bits * 64 + b.toNat % 64) :: decodeFrom .ready rest := by
  simp [decodeFrom, hlow, hhigh]

theorem toNat_ofNat_of_lt {n : Nat} (h : n < 256) : (UInt8.ofNat n).toNat = n :=
  UInt8.toNat_ofNat'.trans (Nat.mod_eq_of_lt h)

section Number

variable {n : Nat} (rest : List UInt8)

/-- The byte that carries the lowest six bits of a number. -/
theorem toNat_tail (n : Nat) : (UInt8.ofNat (n % 64 + 128)).toNat = n % 64 + 128 :=
  toNat_ofNat_of_lt (by omega)

theorem decodeFrom_single (hhigh : n < 0x80) :
    decodeFrom .ready (UInt8.ofNat n :: rest) = Char.ofNat n :: decodeFrom .ready rest := by
  have hnumber := toNat_ofNat_of_lt (show n < 256 by omega)
  simp [decodeFrom, begin?, lead?_of_single (b := UInt8.ofNat n) (by omega), hnumber]

theorem decodeFrom_pair (hlow : 0x80 ≤ n) (hhigh : n < 0x800) :
    decodeFrom .ready (UInt8.ofNat (n / 64 % 32 + 192) :: UInt8.ofNat (n % 64 + 128) :: rest) =
      Char.ofNat n :: decodeFrom .ready rest := by
  have hfirst := toNat_ofNat_of_lt (show n / 64 % 32 + 192 < 256 by omega)
  rw [decodeFrom_ready_of_lead (lead?_of_pair (by omega) (by omega)),
    decodeFrom_inside_last (by rw [toNat_tail]; omega) (by rw [toNat_tail]; omega),
    hfirst, toNat_tail]
  have hnumber : (n / 64 % 32 + 192 - 0xC0) * 64 + (n % 64 + 128) % 64 = n := by omega
  rw [hnumber]

theorem decodeFrom_triple (hlow : 0x800 ≤ n) (hhigh : n < 0x10000)
    (hvalid : n < 0xD800 ∨ 0xDFFF < n) :
    decodeFrom .ready (UInt8.ofNat (n / 4096 % 16 + 224) :: UInt8.ofNat (n / 64 % 64 + 128) ::
        UInt8.ofNat (n % 64 + 128) :: rest) =
      Char.ofNat n :: decodeFrom .ready rest := by
  have hfirst := toNat_ofNat_of_lt (show n / 4096 % 16 + 224 < 256 by omega)
  -- the announced range leaves out what two bytes can say, and surrogates
  rw [decodeFrom_ready_of_lead (lead?_of_triple (by omega) (by omega)), hfirst,
    decodeFrom_inside (by rw [toNat_tail]; split <;> omega) (by rw [toNat_tail]; split <;> omega),
    decodeFrom_inside_last (by rw [toNat_tail]; omega) (by rw [toNat_tail]; omega),
    toNat_tail, toNat_tail]
  have hnumber : ((n / 4096 % 16 + 224 - 0xE0) * 64 + (n / 64 % 64 + 128) % 64) * 64 +
      (n % 64 + 128) % 64 = n := by omega
  rw [hnumber]

theorem decodeFrom_quadruple (hlow : 0x10000 ≤ n) (hhigh : n < 0x110000) :
    decodeFrom .ready (UInt8.ofNat (n / 262144 % 8 + 240) :: UInt8.ofNat (n / 4096 % 64 + 128) ::
        UInt8.ofNat (n / 64 % 64 + 128) :: UInt8.ofNat (n % 64 + 128) :: rest) =
      Char.ofNat n :: decodeFrom .ready rest := by
  have hfirst := toNat_ofNat_of_lt (show n / 262144 % 8 + 240 < 256 by omega)
  -- the announced range leaves out what three bytes can say, and what is beyond all characters
  rw [decodeFrom_ready_of_lead (lead?_of_quadruple (by omega) (by omega)), hfirst,
    decodeFrom_inside (by rw [toNat_tail]; split <;> omega) (by rw [toNat_tail]; split <;> omega),
    decodeFrom_inside (by rw [toNat_tail]; omega) (by rw [toNat_tail]; omega),
    decodeFrom_inside_last (by rw [toNat_tail]; omega) (by rw [toNat_tail]; omega),
    toNat_tail, toNat_tail, toNat_tail]
  have hnumber : (((n / 262144 % 8 + 240 - 0xF0) * 64 + (n / 4096 % 64 + 128) % 64) * 64 +
      (n / 64 % 64 + 128) % 64) * 64 + (n % 64 + 128) % 64 = n := by omega
  rw [hnumber]

end Number

/-- The number of a character is put together again from the bytes that it is written in. -/
theorem decodeFrom_utf8EncodeChar (c : Char) (rest : List UInt8) :
    decodeFrom .ready (String.utf8EncodeChar c ++ rest) = c :: decodeFrom .ready rest := by
  obtain ⟨n, hn⟩ : ∃ n, n = c.val.toNat := ⟨_, rfl⟩
  have hvalid : n < 0xD800 ∨ 0xDFFF < n ∧ n < 0x110000 := hn ▸ c.valid
  have hback : Char.ofNat n = c := hn ▸ Char.ofNat_toNat c
  simp only [String.utf8EncodeChar, ← hn]
  rw [← hback]
  split
  · exact decodeFrom_single rest (by omega)
  split
  · exact decodeFrom_pair rest (by omega) (by omega)
  split
  · exact decodeFrom_triple rest (by omega) (by omega) (by omega)
  · exact decodeFrom_quadruple rest (by omega) (by omega)

theorem decode_encode (cs : List Char) : decode (encode cs) = cs := by
  induction cs with
  | nil => rfl
  | cons c rest ih =>
      rw [decode, encode, List.flatMap_cons, decodeFrom_utf8EncodeChar]
      exact congrArg (c :: ·) ih

/-- A file is read as the text that was written to it, unless it begins with a byte order mark. -/
theorem decodeFile_encode {text : String} (h : text.toList.head? ≠ some '\uFEFF') :
    decodeFile (encode text.toList) = text := by
  have hback := decode_encode text.toList
  unfold decodeFile
  split
  · next rest hmark =>
      rw [hmark] at hback
      exact absurd (hback ▸ rfl) h
  · rw [hback, String.ofList_toList]

end SandboxLint.Text
