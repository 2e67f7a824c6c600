import LetLang.Text.Bytes

namespace LetLang.Text

open String (utf8EncodeChar)

theorem utf8_ofList (cs : List Char) : utf8 (String.ofList cs) = cs.flatMap utf8EncodeChar := by
  rw [utf8, String.toByteArray_ofList, List.utf8Encode, List.data_toByteArray, List.toList_toArray]

theorem utf8_eq_flatMap (s : String) : utf8 s = s.toList.flatMap utf8EncodeChar := by
  rw [← utf8_ofList, String.ofList_toList]

theorem utf8EncodeChar_of_lt {c : Char} (h : c.toNat < 0x80) : utf8EncodeChar c = [c.toUInt8] := by
  have hc : c.val.toNat ≤ 127 := Nat.le_of_lt_succ h
  unfold utf8EncodeChar
  simp only [if_pos hc]
  rfl

theorem le_toNat_of_mem_utf8EncodeChar {c : Char} (h : 0x80 ≤ c.toNat) :
    ∀ b ∈ utf8EncodeChar c, 0x80 ≤ b.toNat := by
  have hc : ¬c.val.toNat ≤ 127 := Nat.not_le.mpr h
  have hbyte {n : Nat} (h1 : 128 ≤ n) (h2 : n < 256) : 128 ≤ (UInt8.ofNat n).toNat := by
    rwa [UInt8.toNat_ofNat', Nat.mod_eq_of_lt h2]
  unfold utf8EncodeChar
  simp only [if_neg hc]
  split
  · simp only [List.forall_mem_cons]
    exact ⟨hbyte (by omega) (by omega),hbyte (by omega) (by omega),by simp⟩
  split
  · simp only [List.forall_mem_cons]
    exact ⟨hbyte (by omega) (by omega),hbyte (by omega) (by omega),hbyte (by omega) (by omega),
      by simp⟩
  · simp only [List.forall_mem_cons]
    exact ⟨hbyte (by omega) (by omega),hbyte (by omega) (by omega),hbyte (by omega) (by omega),
      hbyte (by omega) (by omega),by simp⟩

theorem toNat_toUInt8 {c : Char} (h : c.toNat < 0x80) : c.toUInt8.toNat = c.toNat := by
  have hmod : c.toUInt8.toNat = c.toNat % 256 := UInt32.toNat_toUInt8 c.val
  omega

theorem ofUInt8_toUInt8 {c : Char} (h : c.toNat < 0x80) : Char.ofUInt8 c.toUInt8 = c := by
  rw [← Char.toNat_inj]
  exact toNat_toUInt8 h

theorem toUInt8_mem_utf8EncodeChar_iff {c d : Char} (h : c.toNat < 0x80) :
    c.toUInt8 ∈ utf8EncodeChar d ↔ c = d := by
  have hc := toNat_toUInt8 h
  rcases Nat.lt_or_ge d.toNat 0x80 with hd | hd
  · rw [utf8EncodeChar_of_lt hd, List.mem_singleton, ← UInt8.toNat_inj, hc, toNat_toUInt8 hd,
      Char.toNat_inj]
  · constructor
    · intro hm
      have hle := le_toNat_of_mem_utf8EncodeChar hd _ hm
      omega
    · rintro rfl
      omega

theorem toUInt8_mem_utf8_iff {c : Char} (h : c.toNat < 0x80) (s : String) :
    c.toUInt8 ∈ utf8 s ↔ c ∈ s.toList := by
  simp only [utf8_eq_flatMap, List.mem_flatMap, toUInt8_mem_utf8EncodeChar_iff h, exists_eq_right']

theorem utf8EncodeChar_of_mem {c : Char} {b : UInt8} (hb : b ∈ utf8EncodeChar c)
    (h : b.toNat < 0x80) : utf8EncodeChar c = [b] := by
  rcases Nat.lt_or_ge c.toNat 0x80 with hc | hc
  · rw [utf8EncodeChar_of_lt hc] at hb ⊢
    rw [List.mem_singleton.mp hb]
  · have hle := le_toNat_of_mem_utf8EncodeChar hc b hb
    omega

theorem exists_char_of_flatMap_eq {cs : List Char} {as bs : List UInt8} {b : UInt8}
    (heq : cs.flatMap utf8EncodeChar = as ++ b :: bs) :
    ∃ ds c es us vs, cs = ds ++ c :: es ∧ utf8EncodeChar c = us ++ b :: vs ∧
      as = ds.flatMap utf8EncodeChar ++ us ∧ bs = vs ++ es.flatMap utf8EncodeChar := by
  induction cs generalizing as with
  | nil => simp at heq
  | cons c cs ih =>
    rw [List.flatMap_cons] at heq
    rcases List.append_eq_append_iff.mp heq with ⟨as,rfl,hrest⟩ | ⟨ws,hc,hrest⟩
    · obtain ⟨ds,d,es,us,vs,rfl,hd,rfl,rfl⟩ := ih hrest
      exact ⟨c :: ds,d,es,us,vs,rfl,hd,by rw [List.flatMap_cons, List.append_assoc],rfl⟩
    · cases ws with
      | nil =>
        obtain ⟨ds,d,es,us,vs,rfl,hd,hnil,rfl⟩ := @ih [] hrest.symm
        refine ⟨c :: ds,d,es,us,vs,rfl,hd,?_,rfl⟩
        rw [List.flatMap_cons, List.append_assoc, ← hnil, hc, List.append_nil, List.append_nil]
      | cons w ws =>
        obtain ⟨rfl,rfl⟩ := List.cons.inj hrest
        exact ⟨[],c,cs,as,ws,rfl,hc,rfl,rfl⟩

theorem utf8_singleton (c : Char) : utf8 (String.singleton c) = utf8EncodeChar c := by
  rw [String.singleton_eq_ofList, utf8_ofList, List.flatMap_singleton]

theorem exists_char_of_utf8_eq {s : String} {as bs : List UInt8} {b : UInt8}
    (heq : utf8 s = as ++ b :: bs) :
    ∃ t c u us vs, s = t ++ String.singleton c ++ u ∧ utf8EncodeChar c = us ++ b :: vs ∧
      as = utf8 t ++ us ∧ bs = vs ++ utf8 u := by
  rw [utf8_eq_flatMap] at heq
  obtain ⟨ds,c,es,us,vs,hs,hc,has,hbs⟩ := exists_char_of_flatMap_eq heq
  refine ⟨.ofList ds,c,.ofList es,us,vs,?_,hc,?_,?_⟩
  · rw [← String.toList_inj, hs]
    simp
  · rw [utf8_ofList, has]
  · rw [utf8_ofList, hbs]

section
variable {s : String} {as bs : List UInt8} {b : UInt8} (h : b.toNat < 0x80)
include h

theorem exists_ascii_of_utf8_eq (heq : utf8 s = as ++ b :: bs) :
    ∃ t c u, s = t ++ String.singleton c ++ u ∧ utf8EncodeChar c = [b] ∧ utf8 t = as ∧
      utf8 u = bs := by
  obtain ⟨t,c,u,us,vs,hs,hc,rfl,rfl⟩ := exists_char_of_utf8_eq heq
  have hone : utf8EncodeChar c = [b] := utf8EncodeChar_of_mem (by simp [hc]) h
  rw [hone] at hc
  obtain ⟨rfl,rfl⟩ : us = [] ∧ vs = [] := by simpa [List.singleton_eq_append_iff] using hc
  exact ⟨t,c,u,hs,hone,(List.append_nil _).symm,rfl⟩

theorem exists_cut_of_utf8_eq (heq : utf8 s = as ++ b :: bs) :
    (∃ t, utf8 t = as ++ [b]) ∧ ∃ u, utf8 u = bs := by
  obtain ⟨t,c,u,_,hc,rfl,rfl⟩ := exists_ascii_of_utf8_eq h heq
  exact ⟨⟨t ++ String.singleton c,by rw [utf8_append, utf8_singleton, hc]⟩,u,rfl⟩

end

theorem eq_ofUInt8_of_utf8EncodeChar {c : Char} {b : UInt8} (h : utf8EncodeChar c = [b])
    (hb : b.toNat < 0x80) : c = Char.ofUInt8 b := by
  rcases Nat.lt_or_ge c.toNat 0x80 with hc | hc
  · rw [utf8EncodeChar_of_lt hc] at h
    rw [← List.singleton_inj.mp h, ofUInt8_toUInt8 hc]
  · have hle := le_toNat_of_mem_utf8EncodeChar hc b (by simp [h])
    omega

section
variable {s : String} (h : ∀ c ∈ s.toList, c.toNat < 0x80)
include h

theorem utf8_of_ascii : utf8 s = s.toList.map Char.toUInt8 := by
  rw [utf8_eq_flatMap, List.map_eq_flatMap, List.flatMap_def, List.flatMap_def,
    List.map_congr_left (fun c hc => utf8EncodeChar_of_lt (h c hc))]

theorem latin_map_toUInt8 : latin (s.toList.map Char.toUInt8) = s := by
  have hid : (s.toList.map Char.toUInt8).map Char.ofUInt8 = s.toList := by
    rw [List.map_map]
    exact (List.map_congr_left (fun c hc => ofUInt8_toUInt8 (h c hc))).trans (List.map_id _)
  rw [latin, hid, String.ofList_toList]

theorem latin_utf8_of_ascii : latin (utf8 s) = s := by
  rw [utf8_of_ascii h, latin_map_toUInt8 h]

end

end LetLang.Text
