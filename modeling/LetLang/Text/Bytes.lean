namespace LetLang.Text

def isBlank (b : UInt8) : Bool :=
  b == 0x20 || b == 0x09 || b == 0x0A || b == 0x0D

def isLetter (b : UInt8) : Bool :=
  (0x41 ≤ b && b ≤ 0x5A) || (0x61 ≤ b && b ≤ 0x7A) || b == 0x5F

def isDigit (b : UInt8) : Bool :=
  0x30 ≤ b && b ≤ 0x39

def latin (bs : List UInt8) : String :=
  String.ofList (bs.map Char.ofUInt8)

theorem latin_append (as bs : List UInt8) : latin (as ++ bs) = latin as ++ latin bs := by
  simp [latin]

theorem length_latin (bs : List UInt8) : (latin bs).length = bs.length := by
  simp [latin]

def utf8 (s : String) : List UInt8 :=
  s.toByteArray.data.toList

theorem utf8_append (s t : String) : utf8 (s ++ t) = utf8 s ++ utf8 t := by
  simp [utf8]

def decode? (bs : List UInt8) : Option String :=
  String.fromUTF8? ⟨bs.toArray⟩

theorem decode?_utf8 (s : String) : decode? (utf8 s) = some s := by
  simp [decode?, utf8, String.fromUTF8?, String.fromUTF8, s.isValidUTF8]

theorem utf8_of_decode? {bs : List UInt8} {s : String} (h : decode? bs = some s) :
    utf8 s = bs := by
  unfold decode? String.fromUTF8? at h
  split at h
  · cases h
    simp [utf8, String.fromUTF8]
  · cases h

theorem decode?_eq_some_iff {bs : List UInt8} {s : String} : decode? bs = some s ↔ bs = utf8 s :=
  ⟨fun h => (utf8_of_decode? h).symm,fun h => h ▸ decode?_utf8 s⟩

end LetLang.Text
