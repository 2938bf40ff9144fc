import Unbundled.Http.Static
import Unbundled.Proofs.Paths

namespace Unbundled.Proofs.PercentEncoding

open Files Http Paths

theorem splitList_append_left {sep : Char} {a : List Char} (h : sep ∉ a) (b : List Char) :
    Text.splitList sep (a ++ b) =
      match Text.splitList sep b with
      | [] => [a]
      | p :: ps => (a ++ p) :: ps := by
  induction a with
  | nil =>
      obtain ⟨p, ps, hb⟩ := List.exists_cons_of_ne_nil (splitList_ne_nil sep b)
      rw [List.nil_append, hb]
      rfl
  | cons c a ih =>
      rw [List.mem_cons, not_or] at h
      obtain ⟨p, ps, hb⟩ := List.exists_cons_of_ne_nil (splitList_ne_nil sep b)
      rw [List.cons_append, Text.splitList, if_neg (Ne.symm h.1), ih h.2, hb]
      rfl

theorem toList_loop (bytes : ByteArray) (i : Nat) (done : List UInt8) :
    ByteArray.toList.loop bytes i done = done.reverse ++ bytes.data.toList.drop i := by
  induction i, done using ByteArray.toList.loop.induct bytes with
  | case1 i done hi ih =>
      have hlength : i < bytes.data.toList.length := hi
      have hget : bytes.get! i = bytes.data.toList[i] := getElem!_pos bytes.data i hi
      rw [ByteArray.toList.loop, if_pos hi, ih, List.drop_eq_getElem_cons hlength, hget,
        List.reverse_cons, List.append_assoc]
      rfl
  | case2 i done hi =>
      have hlength : bytes.data.toList.length ≤ i := Nat.not_lt.mp hi
      rw [ByteArray.toList.loop, if_neg hi, List.drop_eq_nil_of_le hlength, List.append_nil]

theorem toList_eq (bytes : ByteArray) : bytes.toList = bytes.data.toList := toList_loop bytes 0 []

theorem toList_toUTF8 (s : String) : s.toUTF8.toList = s.toList.flatMap String.utf8EncodeChar := by
  have hbytes : s.toUTF8 = (s.toList.flatMap String.utf8EncodeChar).toByteArray :=
    String.utf8Encode_toList.symm
  rw [toList_eq, hbytes, List.toList_data_toByteArray]

theorem fromUTF8?_toUTF8 (s : String) : String.fromUTF8? ⟨s.toUTF8.toList.toArray⟩ = some s := by
  have hbytes : (⟨s.toUTF8.toList.toArray⟩ : ByteArray) = s.toUTF8 := by rw [toList_eq]
  rw [hbytes, String.fromUTF8?, String.toUTF8_eq_toByteArray, dif_pos s.isValidUTF8]
  rfl

def hexDigit (n : Nat) : Char := Char.ofNat (if n < 10 then 48 + n else 55 + n)

def escaped (b : UInt8) : List Char :=
  ['%', hexDigit (b.toNat / 16), hexDigit (b.toNat % 16)]

section

variable (keep : Char → Bool)

def encodedChar (c : Char) : List Char :=
  if c = '/' ∨ keep c then [c] else (String.utf8EncodeChar c).flatMap escaped

/-- A path in which the bytes of all characters but slashes and those to keep are escaped. -/
def encoded (path : String) : String := String.ofList (path.toList.flatMap (encodedChar keep))

end

/-- What is kept can stand in the path of a target as it is: it is ASCII, and neither does it start
an escape nor end the path. -/
def MayKeep (keep : Char → Bool) : Prop :=
  ∀ c, keep c = true → c.toNat < 128 ∧ c ≠ '%' ∧ c ≠ '?' ∧ c ≠ '#'

theorem utf8_hexDigit : ∀ n < 16, String.utf8EncodeChar (hexDigit n) = [(hexDigit n).toUInt8] ∧
    hexDigit? (hexDigit n).toUInt8 = some (UInt8.ofNat n) := by decide

theorem hexDigit_ne : ∀ n < 16, hexDigit n ∉ ['/', '?', '#'] := by decide

theorem not_mem_escaped (b : UInt8) {c : Char} (h : c ∈ ['/', '?', '#']) : c ∉ escaped b := by
  have hb : b.toNat < 256 := UInt8.toNat_lt b
  have hhigh := hexDigit_ne (b.toNat / 16) (by omega)
  have hlow := hexDigit_ne (b.toNat % 16) (by omega)
  intro hc
  rw [escaped, List.mem_cons, List.mem_cons, List.mem_singleton] at hc
  rcases hc with rfl | rfl | rfl
  · exact absurd h (by decide)
  · exact hhigh h
  · exact hlow h

theorem percentDecoded_nil : percentDecoded [] = [] := by rw [percentDecoded]

theorem percentDecoded_cons {b : UInt8} (h : b ≠ 37) (rest : List UInt8) :
    percentDecoded (b :: rest) = b :: percentDecoded rest := by
  rw [percentDecoded]
  exact fun _ _ _ h' _ => h h'

theorem percentDecoded_escaped (b : UInt8) (rest : List UInt8) :
    percentDecoded ((escaped b).flatMap String.utf8EncodeChar ++ rest) = b :: percentDecoded rest := by
  have hb : b.toNat < 256 := UInt8.toNat_lt b
  obtain ⟨hhigh, hhigh'⟩ := utf8_hexDigit (b.toNat / 16) (by omega)
  obtain ⟨hlow, hlow'⟩ := utf8_hexDigit (b.toNat % 16) (by omega)
  have hpercent : String.utf8EncodeChar '%' = [37] := by decide
  have hvalue : UInt8.ofNat (b.toNat / 16) * 16 + UInt8.ofNat (b.toNat % 16) = b := by
    refine UInt8.toNat_inj.mp ?_
    rw [UInt8.toNat_add, UInt8.toNat_mul, UInt8.toNat_ofNat', UInt8.toNat_ofNat']
    have hsixteen : (16 : UInt8).toNat = 16 := rfl
    rw [hsixteen]
    omega
  rw [escaped, List.flatMap_cons, List.flatMap_cons, List.flatMap_cons, List.flatMap_nil, hpercent,
    hhigh, hlow]
  simp only [List.cons_append, List.nil_append, List.append_nil]
  rw [percentDecoded, hhigh', hlow']
  exact congrArg (· :: percentDecoded rest) hvalue

theorem percentDecoded_escapes (bytes rest : List UInt8) :
    percentDecoded ((bytes.flatMap escaped).flatMap String.utf8EncodeChar ++ rest) =
      bytes ++ percentDecoded rest := by
  induction bytes with
  | nil => rfl
  | cons b bytes ih =>
      rw [List.flatMap_cons, List.flatMap_append, List.append_assoc, percentDecoded_escaped, ih]
      rfl

theorem utf8_ascii {c : Char} (h : c.toNat < 128) : String.utf8EncodeChar c = [c.toUInt8] := by
  have hsize : c.utf8Size = 1 := by
    rw [Char.utf8Size_eq_one_iff, UInt32.le_iff_toNat_le]
    exact Nat.le_of_lt_succ h
  exact String.utf8EncodeChar_eq_singleton hsize

variable {keep : Char → Bool} (hkeep : MayKeep keep)
include hkeep

theorem percentDecoded_encodedChar (c : Char) (rest : List UInt8) :
    percentDecoded ((encodedChar keep c).flatMap String.utf8EncodeChar ++ rest) =
      String.utf8EncodeChar c ++ percentDecoded rest := by
  unfold encodedChar
  split
  · rename_i hc
    have hascii : c.toNat < 128 ∧ c ≠ '%' := by
      rcases hc with rfl | hc
      · decide
      · exact ⟨(hkeep c hc).1, (hkeep c hc).2.1⟩
    have hbyte : c.toUInt8 ≠ 37 := by
      intro hbyte
      refine hascii.2 (Char.toNat_inj.mp ?_)
      have hnat : c.toNat % 256 = 37 := congrArg UInt8.toNat hbyte
      have hpercent : '%'.toNat = 37 := rfl
      omega
    rw [List.flatMap_singleton, utf8_ascii hascii.1]
    exact percentDecoded_cons hbyte rest
  · exact percentDecoded_escapes _ rest

theorem percentDecoded_encoded (path : String) :
    percentDecoded (encoded keep path).toUTF8.toList = path.toUTF8.toList := by
  rw [toList_toUTF8, toList_toUTF8, encoded, String.toList_ofList]
  induction path.toList with
  | nil => exact percentDecoded_nil
  | cons c cs ih =>
      rw [List.flatMap_cons, List.flatMap_append, percentDecoded_encodedChar hkeep, ih,
        List.flatMap_cons]

/-- A text that is read as itself is the encoded form of nothing but itself. -/
theorem eq_of_encoded_eq {name text : String} (h : encoded keep name = text)
    (htext : percentDecoded text.toUTF8.toList = text.toUTF8.toList) : name = text := by
  have hread := percentDecoded_encoded hkeep name
  rw [h, htext] at hread
  have hname := fromUTF8?_toUTF8 name
  rw [← hread, fromUTF8?_toUTF8] at hname
  exact (Option.some.inj hname).symm

theorem mem_encodedChar {c d : Char} (hd : d ∈ ['/', '?', '#']) (h : d ∈ encodedChar keep c) :
    d = '/' ∧ c = '/' := by
  unfold encodedChar at h
  split at h
  · rename_i hc
    obtain rfl := List.mem_singleton.mp h
    rcases hc with rfl | hc
    · exact ⟨rfl, rfl⟩
    · obtain ⟨-, -, hquery, hpage⟩ := hkeep d hc
      simp only [List.mem_cons, List.not_mem_nil, or_false, hquery, hpage] at hd
      exact ⟨hd, hd⟩
  · obtain ⟨b, -, hb⟩ := List.mem_flatMap.mp h
    exact absurd hb (not_mem_escaped b hd)

theorem splitList_encoded (cs : List Char) :
    Text.splitList '/' (cs.flatMap (encodedChar keep)) =
      (Text.splitList '/' cs).map (·.flatMap (encodedChar keep)) := by
  induction cs with
  | nil => rfl
  | cons c cs ih =>
      rw [List.flatMap_cons]
      by_cases hc : c = '/'
      · subst hc
        have hslash : encodedChar keep '/' = ['/'] := if_pos (.inl rfl)
        rw [hslash, List.singleton_append, Text.splitList, Text.splitList, if_pos rfl, if_pos rfl, ih]
        rfl
      · have hnone : '/' ∉ encodedChar keep c := fun h =>
          hc (mem_encodedChar hkeep (by decide) h).2
        rw [splitList_append_left hnone, ih, Text.splitList, if_neg hc]
        cases Text.splitList '/' cs <;> simp

theorem segments_encoded (path : String) :
    Path.segments (encoded keep path) = (Path.segments path).map (encoded keep) := by
  simp only [Path.segments, Text.split, encoded, String.toList_ofList, splitList_encoded hkeep,
    List.map_map]
  congr 1
  funext name
  simp [encoded]

end Unbundled.Proofs.PercentEncoding
