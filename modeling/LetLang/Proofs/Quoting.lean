import Mathlib.Data.List.Basic
import LetLang.Text.Quoted

namespace LetLang.Text

theorem mem_toDigits {b n : Nat} (hb : 1 < b) {c : Char} (h : c ∈ Nat.toDigits b n) :
    ∃ d < b, c = d.digitChar := by
  induction n using Nat.strongRecOn with
  | ind n ih =>
    rw [Nat.toDigits_eq_if hb] at h
    split at h
    · rename_i hn
      exact ⟨n,hn,List.mem_singleton.mp h⟩
    · rename_i hn
      rcases List.mem_append.mp h with h | h
      · exact ih (n / b) (Nat.div_lt_self (by omega) hb) h
      · exact ⟨n % b,Nat.mod_lt n (by omega),List.mem_singleton.mp h⟩

theorem toDigits_eq_append {b : Nat} (hb : 1 < b) (n : Nat) :
    Nat.toDigits b n =
      (if n < b then [] else Nat.toDigits b (n / b)) ++ [Nat.digitChar (n % b)] := by
  rw [Nat.toDigits_eq_if hb]
  split
  · rename_i hn
    rw [Nat.mod_eq_of_lt hn, List.nil_append]
  · rfl

-- By induction on the number: the last digits are the same and so is what stands before them.
theorem toDigits_inj {b m n : Nat} (hb : 1 < b) (hb' : b ≤ 16)
    (h : Nat.toDigits b m = Nat.toDigits b n) : m = n := by
  induction m using Nat.strongRecOn generalizing n with
  | ind m ih =>
    rw [toDigits_eq_append hb m, toDigits_eq_append hb n] at h
    obtain ⟨hinit,hlast⟩ := List.append_inj' h rfl
    have hdigit : ∀ d < 16, ∀ e < 16, Nat.digitChar d = Nat.digitChar e → d = e := by decide
    have hlt (k : Nat) : k % b < b := Nat.mod_lt k (by omega)
    have hmod : m % b = n % b := by
      apply hdigit
      · exact Nat.lt_of_lt_of_le (hlt m) hb'
      · exact Nat.lt_of_lt_of_le (hlt n) hb'
      · exact List.singleton_inj.mp hlast
    have hdiv : m / b = n / b := by
      by_cases hm : m < b
      · by_cases hn : n < b
        · rw [Nat.div_eq_of_lt hm, Nat.div_eq_of_lt hn]
        · rw [if_pos hm, if_neg hn] at hinit
          exact absurd hinit.symm Nat.toDigits_ne_nil
      · by_cases hn : n < b
        · rw [if_neg hm, if_pos hn] at hinit
          exact absurd hinit Nat.toDigits_ne_nil
        · rw [if_neg hm, if_neg hn] at hinit
          exact ih (m / b) (Nat.div_lt_self (by omega) hb) hinit
    rw [← Nat.div_add_mod m b, hdiv, hmod, Nat.div_add_mod]

theorem not_mem_toDigits {c : Char} (hc : ∀ d < 16, c ≠ Nat.digitChar d) (n : Nat) :
    c ∉ Nat.toDigits 16 n := by
  intro h
  obtain ⟨d,hd,rfl⟩ := mem_toDigits (by decide) h
  exact hc d hd rfl

theorem append_cons_inj {α : Type} {as bs cs ds : List α} {x : α} (ha : x ∉ as) (hb : x ∉ bs)
    (h : as ++ x :: cs = bs ++ x :: ds) : as = bs ∧ cs = ds := by
  rcases List.append_eq_append_iff.mp h with ⟨es,rfl,hes⟩ | ⟨es,rfl,hes⟩
  · cases es with
    | nil => exact ⟨(List.append_nil as).symm,(List.cons.inj hes).2⟩
    | cons e es => simp [(List.cons.inj hes).1] at hb
  · cases es with
    | nil => exact ⟨List.append_nil bs,(List.cons.inj hes).2.symm⟩
    | cons e es => simp [(List.cons.inj hes).1] at ha

theorem numbered_append (c : Char) (xs : List Char) :
    numbered c ++ xs = '\\' :: 'u' :: '{' :: (Nat.toDigits 16 c.toNat ++ '}' :: xs) := by
  simp [numbered]

theorem numbered_append_inj {c d : Char} {xs ys : List Char}
    (h : numbered c ++ xs = numbered d ++ ys) : c = d ∧ xs = ys := by
  rw [numbered_append, numbered_append] at h
  simp only [List.cons.injEq, true_and] at h
  have hclose := not_mem_toDigits (c := '}') (by decide)
  obtain ⟨hdigits,hxs⟩ := append_cons_inj (hclose _) (hclose _) h
  exact ⟨Char.toNat_inj.mp (toDigits_inj (by decide) (by decide) hdigits),hxs⟩

def marks : List (Char × Char) :=
  [('"', '"'), ('\\', '\\'), ('\n', 'n'), ('\r', 'r'), ('\t', 't'), ('\x00', '0')]

theorem marks_inj {c d m : Char} (hc : (c, m) ∈ marks) (hd : (d, m) ∈ marks) : c = d := by
  have hall : ∀ p ∈ marks, ∀ q ∈ marks, p.2 = q.2 → p.1 = q.1 := by decide
  exact hall _ hc _ hd rfl

theorem ne_u_of_mem_marks {c m : Char} (h : (c, m) ∈ marks) : m ≠ 'u' := by
  have hall : ∀ p ∈ marks, p.2 ≠ 'u' := by decide
  exact hall _ h

inductive Escaped : Char → List Char → Prop
  | marked {c m : Char} (h : (c, m) ∈ marks) : Escaped c ['\\', m]
  | numbered (c : Char) : Escaped c (numbered c)
  | plain {c : Char} (h : c ∉ marks.map Prod.fst) : Escaped c [c]

theorem escaped_escape (c : Char) : Escaped c (escape c) := by
  unfold escape
  split
  case h_7 =>
    rename_i hquote hback hfeed hreturn htab hnul
    split
    · exact .numbered _
    · apply Escaped.plain
      simpa [marks] using ⟨hquote,hback,hfeed,hreturn,htab,hnul⟩
  all_goals exact .marked (by decide)

namespace Escaped

variable {c d : Char} {es fs xs ys : List Char}

theorem ne_of_unmarked (hc : c ∉ marks.map Prod.fst) (hd : d ∈ marks.map Prod.fst) : c ≠ d := by
  rintro rfl
  exact hc hd

theorem ne_quote (h : Escaped c es) : es ++ xs ≠ '"' :: ys := by
  cases h with
  | marked _ => simp
  | numbered => simp [numbered_append]
  | plain h => simp [ne_of_unmarked h (d := '"') (by decide)]

theorem newline_not_mem (h : Escaped c es) : '\n' ∉ es := by
  cases h with
  | marked hm =>
    have hall : ∀ p ∈ marks, '\n' ∉ ['\\', p.2] := by decide
    exact hall _ hm
  | numbered =>
    have hdigits := not_mem_toDigits (c := '\n') (by decide) c.toNat
    simpa [Text.numbered] using hdigits
  | plain h =>
    intro hmem
    exact ne_of_unmarked h (by decide) (List.mem_singleton.mp hmem).symm

theorem append_inj (hc : Escaped c es) (hd : Escaped d fs) (h : es ++ xs = fs ++ ys) :
    c = d ∧ xs = ys := by
  have hback {e : Char} (he : e ∉ marks.map Prod.fst) : e ≠ '\\' :=
    ne_of_unmarked he (by decide)
  cases hc with
  | marked hm =>
    cases hd with
    | marked hm' =>
      obtain ⟨rfl,rfl⟩ : _ = _ ∧ _ = _ := by simpa using h
      exact ⟨marks_inj hm hm',rfl⟩
    | numbered =>
      rw [numbered_append] at h
      exact absurd (List.cons.inj (List.cons.inj h).2).1 (ne_u_of_mem_marks hm)
    | plain hd => exact absurd (List.cons.inj h).1.symm (hback hd)
  | numbered =>
    cases hd with
    | marked hm =>
      rw [numbered_append] at h
      exact absurd (List.cons.inj (List.cons.inj h).2).1.symm (ne_u_of_mem_marks hm)
    | numbered => exact numbered_append_inj h
    | plain hd =>
      rw [numbered_append] at h
      exact absurd (List.cons.inj h).1.symm (hback hd)
  | plain hc =>
    cases hd with
    | marked _ => exact absurd (List.cons.inj h).1 (hback hc)
    | numbered =>
      rw [numbered_append] at h
      exact absurd (List.cons.inj h).1 (hback hc)
    | plain _ => exact List.cons.inj h

end Escaped

-- By induction on the first text: the closing quote begins no written character.
theorem escapes_append_inj {cs ds xs ys : List Char}
    (h : cs.flatMap escape ++ '"' :: xs = ds.flatMap escape ++ '"' :: ys) : cs = ds ∧ xs = ys := by
  induction cs generalizing ds with
  | nil =>
    cases ds with
    | nil => exact ⟨rfl,(List.cons.inj h).2⟩
    | cons d ds =>
      rw [List.flatMap_cons, List.append_assoc] at h
      exact absurd h.symm (escaped_escape d).ne_quote
  | cons c cs ih =>
    rw [List.flatMap_cons, List.append_assoc] at h
    cases ds with
    | nil => exact absurd h (escaped_escape c).ne_quote
    | cons d ds =>
      rw [List.flatMap_cons, List.append_assoc] at h
      obtain ⟨rfl,hrest⟩ := (escaped_escape c).append_inj (escaped_escape d) h
      obtain ⟨rfl,hxs⟩ := ih hrest
      exact ⟨rfl,hxs⟩

theorem quote_append_inj {s t : String} {xs ys : List Char}
    (h : (quote s).toList ++ xs = (quote t).toList ++ ys) : s = t ∧ xs = ys := by
  simp only [quote, String.toList_ofList, List.cons_append, List.cons.injEq, true_and,
    List.append_assoc, List.nil_append] at h
  obtain ⟨hs,hxs⟩ := escapes_append_inj h
  exact ⟨String.toList_inj.mp hs,hxs⟩

theorem newline_not_mem_quote (s : String) : '\n' ∉ (quote s).toList := by
  simp [quote, (escaped_escape _).newline_not_mem]

end LetLang.Text
