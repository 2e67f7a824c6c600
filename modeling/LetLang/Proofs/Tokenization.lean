import Mathlib.Logic.ExistsUnique
import LetLang.Proofs.Spelling

namespace LetLang

open Text

namespace Span

def Holds (s : Span) (i : Nat) : Prop :=
  s.start ≤ i ∧ i < s.stop

def slice (s : Span) (bytes : List UInt8) : List UInt8 :=
  (bytes.drop s.start).take (s.stop - s.start)

theorem getElem?_slice (s : Span) (bytes : List UInt8) (i : Nat) :
    (s.slice bytes)[i]? = if i < s.stop - s.start then bytes[s.start + i]? else none := by
  rw [slice, List.getElem?_take, List.getElem?_drop]

theorem getElem_mem_slice {s : Span} {bytes : List UInt8} {i : Nat} (h : i < bytes.length)
    (hs : s.Holds i) : bytes[i] ∈ s.slice bytes := by
  obtain ⟨h1,h2⟩ := hs
  refine List.mem_iff_getElem?.mpr ⟨i - s.start,?_⟩
  have hlt : i - s.start < s.stop - s.start := by omega
  rw [getElem?_slice, if_pos hlt, Nat.add_sub_cancel' h1, List.getElem?_eq_getElem h]

end Span

structure Token.Lexed (bytes : List UInt8) (t : Token) : Prop where
  nonempty : t.span.start < t.span.stop
  inside : t.span.stop ≤ bytes.length
  noBlank : ∀ b ∈ t.span.slice bytes, ¬isBlank b
  literal : t.literal = latin (t.span.slice bytes)
  spelled : t.kind.Spelled (t.span.slice bytes)
  maximal : ∀ b ∈ bytes[t.span.stop]?, ¬t.kind.extendedBy b

structure Tokenization (bytes : List UInt8) (n : Nat) (ts : List Token) : Prop where
  lexed : ∀ t ∈ ts, t.Lexed bytes
  after : ∀ t ∈ ts, n ≤ t.span.start
  ordered : ts.Pairwise (fun t u => t.span.stop ≤ u.span.start)
  covered : ∀ i (h : i < bytes.length), n ≤ i → ¬isBlank bytes[i] →
    ∃! t, t ∈ ts ∧ t.span.Holds i

section
variable {bytes bs : List UInt8} {n : Nat} {b : UInt8} {t : Token} {ts us : List Token}

theorem tokenization_length_iff : Tokenization bytes bytes.length ts ↔ ts = [] := by
  constructor
  · intro h
    refine List.eq_nil_iff_forall_not_mem.mpr (fun t ht => ?_)
    have h1 := (h.lexed t ht).nonempty
    have h2 := (h.lexed t ht).inside
    have h3 := h.after t ht
    omega
  · rintro rfl
    exact ⟨by simp,by simp,.nil,fun i h hn => absurd h (by omega)⟩

theorem Token.Lexed.not_blank (h : t.Lexed bytes) {i : Nat} (hi : i < bytes.length)
    (ht : t.span.Holds i) : ¬isBlank bytes[i] :=
  h.noBlank _ (Span.getElem_mem_slice hi ht)

theorem tokenization_blank_iff (hn : n < bytes.length) (hb : isBlank bytes[n]) :
    Tokenization bytes n ts ↔ Tokenization bytes (n + 1) ts := by
  constructor
  · intro h
    refine ⟨h.lexed,fun t ht => ?_,h.ordered,fun i hi hle => h.covered i hi (by omega)⟩
    have h1 := h.after t ht
    have hne : t.span.start ≠ n := by
      rintro rfl
      exact (h.lexed t ht).not_blank hn ⟨Nat.le_refl _,(h.lexed t ht).nonempty⟩ hb
    omega
  · intro h
    refine ⟨h.lexed,fun t ht => ?_,h.ordered,fun i hi hle hbi => ?_⟩
    · have h1 := h.after t ht
      omega
    · have hne : i ≠ n := by
        rintro rfl
        exact hbi hb
      exact h.covered i hi (by omega) hbi

theorem Tokenization.exists_cons (h : Tokenization bytes n ts) (hn : n < bytes.length)
    (hb : ¬isBlank bytes[n]) : ∃ t us, ts = t :: us ∧ t.span.start = n := by
  obtain ⟨u,⟨hu,hu1,hu2⟩,_⟩ := h.covered n hn (Nat.le_refl n) hb
  cases ts with
  | nil => cases hu
  | cons t us =>
    refine ⟨t,us,rfl,?_⟩
    have h1 := h.after t List.mem_cons_self
    have h2 := (h.lexed t List.mem_cons_self).nonempty
    rcases List.mem_cons.mp hu with rfl | hus
    · omega
    · have h3 := (List.pairwise_cons.mp h.ordered).1 u hus
      omega

theorem tokenization_cons_iff (hs : t.span.start = n) :
    Tokenization bytes n (t :: us) ↔ t.Lexed bytes ∧ Tokenization bytes t.span.stop us := by
  constructor
  · intro h
    have ht := h.lexed t List.mem_cons_self
    have hne := ht.nonempty
    obtain ⟨hafter,hord⟩ := List.pairwise_cons.mp h.ordered
    refine ⟨ht,fun u hu => h.lexed u (List.mem_cons_of_mem t hu),hafter,hord,?_⟩
    intro i hi hle hb
    obtain ⟨u,⟨hu,hold⟩,huniq⟩ := h.covered i hi (by omega) hb
    rcases List.mem_cons.mp hu with rfl | hus
    · have h2 := hold.2
      omega
    · exact ⟨u,⟨hus,hold⟩,fun v hv => huniq v ⟨List.mem_cons_of_mem t hv.1,hv.2⟩⟩
  · rintro ⟨ht,h⟩
    have hne := ht.nonempty
    refine ⟨List.forall_mem_cons.mpr ⟨ht,h.lexed⟩,?_,List.pairwise_cons.mpr ⟨h.after,h.ordered⟩,?_⟩
    · refine List.forall_mem_cons.mpr ⟨Nat.le_of_eq hs.symm,fun u hu => ?_⟩
      have h1 := h.after u hu
      omega
    · intro i hi hle hb
      by_cases hstop : i < t.span.stop
      · refine ⟨t,⟨List.mem_cons_self,by omega,hstop⟩,?_⟩
        rintro v ⟨hv,hold⟩
        rcases List.mem_cons.mp hv with rfl | hvs
        · rfl
        · have h1 := h.after v hvs
          have h2 := hold.1
          omega
      · obtain ⟨u,⟨hu,hold⟩,huniq⟩ := h.covered i hi (by omega) hb
        refine ⟨u,⟨List.mem_cons_of_mem t hu,hold⟩,?_⟩
        rintro v ⟨hv,hvold⟩
        rcases List.mem_cons.mp hv with rfl | hvs
        · exact absurd hvold.2 hstop
        · exact huniq v ⟨hvs,hvold⟩

theorem slice_of_drop (hd : bytes.drop n = b :: bs) (m : Nat) :
    Span.slice ⟨n,n + 1 + m⟩ bytes = b :: bs.take m := by
  have hm : n + 1 + m - n = m + 1 := by omega
  rw [Span.slice, hd, hm, List.take_succ_cons]

theorem getElem?_of_drop (hd : bytes.drop n = b :: bs) (m : Nat) :
    bytes[n + 1 + m]? = (bs.drop m).head? := by
  have hm : n + 1 + m = n + (m + 1) := by omega
  rw [hm, ← List.getElem?_drop, hd, List.getElem?_cons_succ, List.head?_drop]

theorem length_of_drop (hd : bytes.drop n = b :: bs) : bytes.length = n + 1 + bs.length := by
  have hlen := congrArg List.length hd
  rw [List.length_drop, List.length_cons] at hlen
  omega

theorem drop_of_drop (hd : bytes.drop n = b :: bs) (m : Nat) :
    bs.drop m = bytes.drop (n + 1 + m) := by
  have hm : n + 1 + m = n + (m + 1) := by omega
  rw [hm, ← List.drop_drop, hd, List.drop_succ_cons]

theorem lexed_iff (hd : bytes.drop n = b :: bs) (hb : ¬isBlank b) (hs : t.span.start = n) :
    t.Lexed bytes ↔
      t = ⟨(lexeme b bs).1,latin (b :: bs.take (lexeme b bs).2),
        ⟨n,n + 1 + (lexeme b bs).2⟩⟩ := by
  have hlen := length_of_drop hd
  constructor
  · intro h
    obtain ⟨k,literal,start,stop⟩ := t
    obtain rfl : start = n := hs
    have h1 : start < stop := h.nonempty
    have h2 : stop ≤ bytes.length := h.inside
    obtain ⟨m,rfl⟩ := Nat.exists_eq_add_of_le (show start + 1 ≤ stop by omega)
    have hsp := h.spelled
    have hlit := h.literal
    have hmax := h.maximal
    simp only [slice_of_drop hd, getElem?_of_drop hd] at hsp hlit hmax
    have hm : (bs.take m).length = m := List.length_take_of_le (by omega)
    have hu := lexeme_unique hsp hmax
    rw [List.take_append_drop, hm] at hu
    rw [hu, hlit]
  · rintro rfl
    have hle := lexeme_le_length b bs
    have hsp := lexeme_spelled b bs
    refine ⟨?_,?_,?_,?_,?_,?_⟩
    · simp only
      omega
    · simp only
      omega
    · rw [slice_of_drop hd]
      exact List.forall_mem_cons.mpr ⟨hb,hsp.not_blank⟩
    · rw [slice_of_drop hd]
    · rw [slice_of_drop hd]
      exact hsp
    · rw [getElem?_of_drop hd]
      exact lexeme_maximal b bs

end

theorem tokenization_iff (bytes : List UInt8) (lx : Lexer) (hle : lx.offset ≤ bytes.length)
    (hr : lx.rest = bytes.drop lx.offset) (ts : List Token) :
    Tokenization bytes lx.offset ts ↔ ts = lx.tokens := by
  induction lx using Lexer.scan_induction generalizing ts with
  | nil n =>
    simp only at hle hr ⊢
    have hn : n = bytes.length := by
      have hlen := congrArg List.length hr
      rw [List.length_nil, List.length_drop] at hlen
      omega
    rw [Lexer.tokens_nil, hn, tokenization_length_iff]
  | blank n b bs hb ih =>
    simp only at hle hr ih ⊢
    have hlen := length_of_drop hr.symm
    have hn : n < bytes.length := by omega
    rw [List.drop_eq_getElem_cons hn] at hr
    obtain ⟨hbn,hbs⟩ := List.cons.inj hr
    rw [Lexer.tokens_blank hb, ← ih (by omega) hbs]
    exact tokenization_blank_iff hn (hbn ▸ hb)
  | token n b bs hb ih =>
    simp only at hle hr ih ⊢
    have hlen := length_of_drop hr.symm
    have hm := lexeme_le_length b bs
    have hn : n < bytes.length := by omega
    have hbn : bytes[n] = b := by
      rw [List.drop_eq_getElem_cons hn] at hr
      exact (List.cons.inj hr).1.symm
    have ih' := ih (by omega) (drop_of_drop hr.symm _)
    rw [Lexer.tokens_cons hb]
    constructor
    · intro h
      obtain ⟨t,us,rfl,hs⟩ := h.exists_cons hn (hbn ▸ hb)
      obtain ⟨ht,hus⟩ := (tokenization_cons_iff hs).mp h
      obtain rfl := (lexed_iff hr.symm hb hs).mp ht
      rw [(ih' us).mp hus]
    · rintro rfl
      refine (tokenization_cons_iff rfl).mpr ⟨(lexed_iff hr.symm hb rfl).mpr rfl,?_⟩
      exact (ih' _).mpr rfl

theorem tokenization_ofBytes_iff (bytes : List UInt8) (ts : List Token) :
    Tokenization bytes 0 ts ↔ ts = (Lexer.ofBytes bytes).tokens :=
  tokenization_iff bytes (.ofBytes bytes) (Nat.zero_le _) rfl ts

theorem Lexer.last_ofBytes (bytes : List UInt8) :
    (ofBytes bytes).last = .eof bytes.length := by
  rw [last]
  exact congrArg Token.eof (Nat.zero_add _)

theorem Lexer.stream_eq_tokenization (bytes : List UInt8) :
    (∀ ts, Tokenization bytes 0 ts ↔ ts = (ofBytes bytes).tokens) ∧
      (∀ i, ((ofBytes bytes).skip i).next.1 = (ofBytes bytes).tokens.getD i (.eof bytes.length)) ∧
        lex bytes = (ofBytes bytes).tokens ++ [.eof bytes.length] := by
  rw [← last_ofBytes]
  refine ⟨tokenization_ofBytes_iff bytes,fun i => ?_,lex_eq bytes⟩
  exact next_skip i (ofBytes bytes)

end LetLang
