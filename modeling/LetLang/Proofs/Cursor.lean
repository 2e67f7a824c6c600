import LetLang.Token.Cursor
import LetLang.Proofs.Bounds
import LetLang.Proofs.Shift

namespace LetLang

open Text

def Lexer.ahead : Nat → Lexer → List Token
  | 0, _ => []
  | n + 1, lx => lx.next.1 :: ahead n lx.next.2

namespace Lexer

theorem skip_shift (n k : Nat) (lx : Lexer) : (lx.shift n).skip k = (lx.skip k).shift n := by
  induction k generalizing lx with
  | zero => rfl
  | succ k ih => rw [skip, next_shift, ih, skip]

theorem ahead_shift (n k : Nat) (lx : Lexer) :
    (lx.shift n).ahead k = (lx.ahead k).map (Token.shift n) := by
  induction k generalizing lx with
  | zero => rfl
  | succ k ih => rw [ahead, next_shift, ih, ahead, List.map_cons]

theorem mem_tokens_or_last_of_mem_ahead {lx : Lexer} {k : Nat} {t : Token} (h : t ∈ lx.ahead k) :
    t ∈ lx.tokens ∨ t = lx.last := by
  induction k generalizing lx with
  | zero => cases h
  | succ k ih =>
    rcases List.mem_cons.mp h with rfl | h
    · rw [next_eq_head]
      cases lx.tokens with
      | nil => exact .inr rfl
      | cons u us => exact .inl List.mem_cons_self
    · rcases ih h with htokens | hlast
      · rw [tokens_next] at htokens
        exact .inl (List.mem_of_mem_drop htokens)
      · exact .inr (hlast.trans lx.next_last)

theorem slice_of_mem_ahead {bytes : List UInt8} {k : Nat} {t : Token}
    (h : t ∈ (ofBytes bytes).ahead k) :
    t.span.Within bytes.length ∧ t.literal = latin (t.span.slice bytes) := by
  rcases mem_tokens_or_last_of_mem_ahead h with htokens | rfl
  · have hlexed := lexed_of_mem htokens
    exact ⟨⟨Nat.le_of_lt hlexed.nonempty,hlexed.inside⟩,hlexed.literal⟩
  · rw [last_ofBytes]
    refine ⟨⟨Nat.le_refl _,Nat.le_refl _⟩,?_⟩
    rw [Span.slice, Token.eof, Nat.sub_self, List.take_zero]
    rfl

end Lexer

namespace Cursor

def WellFormed (c : Cursor) : Prop :=
  (c.position < c.input.length ∧ c.readPosition = c.position + 1 ∧
      c.input[c.position]? = some c.byte) ∨
    (c.position = c.input.length ∧ c.readPosition = c.input.length ∧ c.byte = 0)

def rest (c : Cursor) : List UInt8 :=
  c.input.drop c.position

def lexer (c : Cursor) : Lexer :=
  ⟨c.position,c.rest⟩

structure Moves (n : Nat) (c d : Cursor) : Prop where
  wellFormed : d.WellFormed
  input : d.input = c.input
  position : d.position = c.position + n

section
variable {c d e : Cursor} {m n : Nat}

theorem Moves.rest (h : Moves n c d) : d.rest = c.rest.drop n := by
  rw [Cursor.rest, h.input, h.position, Cursor.rest, List.drop_drop]

theorem Moves.trans (h : Moves m c d) (hd : Moves n d e) : Moves (m + n) c e := by
  refine ⟨hd.wellFormed,hd.input.trans h.input,?_⟩
  rw [hd.position, h.position, Nat.add_assoc]

theorem input_readByte (c : Cursor) : c.readByte.input = c.input := by
  unfold readByte
  split <;> rfl

-- Reading a byte sets all three fields, so the result is well formed whatever they were.
theorem wellFormed_readByte (c : Cursor) : c.readByte.WellFormed := by
  unfold readByte
  split
  · rename_i b hb
    exact .inl ⟨(List.getElem?_eq_some_iff.mp hb).1,rfl,hb⟩
  · exact .inr ⟨rfl,rfl,rfl⟩

theorem wellFormed_ofBytes (input : List UInt8) : (ofBytes input).WellFormed :=
  wellFormed_readByte _

theorem input_ofBytes (input : List UInt8) : (ofBytes input).input = input :=
  input_readByte _

theorem lexer_ofBytes (input : List UInt8) : (ofBytes input).lexer = .ofBytes input := by
  cases input <;> rfl

theorem rest_of_atEnd (he : c.atEnd) : c.rest = [] := by
  apply List.drop_eq_nil_of_le
  simpa [atEnd] using he

namespace WellFormed

theorem position_le (h : c.WellFormed) : c.position ≤ c.input.length := by
  rcases h with ⟨hlt,_⟩ | ⟨heq,_⟩
  · exact Nat.le_of_lt hlt
  · exact Nat.le_of_eq heq

section
variable (h : c.WellFormed) (he : ¬c.atEnd)
include h he

theorem inside : c.position < c.input.length ∧ c.readPosition = c.position + 1 ∧
    c.input[c.position]? = some c.byte := by
  have hlt : c.position < c.input.length := by simpa [atEnd] using he
  rcases h with hinside | ⟨heq,_⟩
  · exact hinside
  · omega

theorem moves_readByte : Moves 1 c c.readByte := by
  obtain ⟨hlt,hread,_⟩ := h.inside he
  refine ⟨wellFormed_readByte c,input_readByte c,?_⟩
  unfold readByte
  split
  · exact hread
  · rename_i hnone
    have hle := List.getElem?_eq_none_iff.mp hnone
    simp only
    omega

theorem rest_eq_cons : c.rest = c.byte :: c.readByte.rest := by
  obtain ⟨hlt,_,hbyte⟩ := h.inside he
  rw [List.getElem?_eq_getElem hlt, Option.some_inj] at hbyte
  rw [(h.moves_readByte he).rest, rest, List.drop_eq_getElem_cons hlt, hbyte]
  rfl

theorem peek?_eq_head? : c.peek? = c.readByte.rest.head? := by
  obtain ⟨_,hread,_⟩ := h.inside he
  have hmoves := h.moves_readByte he
  rw [peek?, rest, hmoves.input, hmoves.position, hread, List.head?_drop]

end

theorem moves_skipWhile (h : c.WellFormed) (p : UInt8 → Bool) :
    Moves (c.rest.takeWhile p).length c (c.skipWhile p) := by
  fun_induction Cursor.skipWhile p c with
  | case1 c he =>
    rw [rest_of_atEnd he]
    exact ⟨h,rfl,rfl⟩
  | case2 c he hp ih =>
    have hmoves := (h.moves_readByte he).trans (ih (wellFormed_readByte c))
    rwa [h.rest_eq_cons he, List.takeWhile_cons_of_pos hp, List.length_cons, Nat.add_comm]
  | case3 c he hp =>
    rw [h.rest_eq_cons he, List.takeWhile_cons_of_neg hp]
    exact ⟨h,rfl,rfl⟩

theorem lexer_skipBlanks (h : c.WellFormed) : (c.skipWhile isBlank).lexer = c.lexer.skipBlanks := by
  have hmoves := h.moves_skipWhile isBlank
  have hrest := Lexer.skipBlanksFrom_rest c.position c.rest
  have hoffset := Lexer.skipBlanksFrom_offset c.position c.rest
  rw [← drop_length_takeWhile, ← hmoves.rest] at hrest
  rw [← hmoves.position] at hoffset
  rw [lexer, ← hrest, ← hoffset]
  rfl

theorem token?_eq (h : c.WellFormed) (he : ¬c.atEnd) (hd : Moves (1 + m) c d)
    (kind : String → Kind) :
    d.token? kind c.position =
      some (⟨kind (latin (c.byte :: c.readByte.rest.take m)),
        latin (c.byte :: c.readByte.rest.take m),⟨c.position,c.position + 1 + m⟩⟩, d) := by
  have hle := hd.wellFormed.position_le
  have hposition : d.position = c.position + 1 + m := by rw [hd.position, Nat.add_assoc]
  have hlength : c.position + 1 + m - c.position = m + 1 := by omega
  have hrest := h.rest_eq_cons he
  rw [rest] at hrest
  rw [token?, literal?, if_pos ⟨by omega,hle⟩, hd.input, hrest, hposition, hlength]
  rfl

section
variable (h : c.WellFormed) (he : ¬c.atEnd)
include h he

theorem sign_eq :
    c.sign =
      match doubleSign? c.byte c.readByte.rest with
      | some o => (.operator o, c.readByte)
      | none => (singleSign c.byte, c) := by
  rw [sign, operatorOrDouble, operatorOrDouble, h.peek?_eq_head? he]
  by_cases hequals : c.readByte.rest.head?.map Char.ofUInt8 = some '='
  · obtain ⟨n,hn,hequals'⟩ := Option.map_eq_some_iff.mp hequals
    obtain ⟨bs,hrest⟩ := List.head?_eq_some_iff.mp hn
    rw [if_pos hequals, if_pos hequals, hrest, doubleSign?, if_pos hequals']
    split <;> simp_all
  · have hnone : doubleSign? c.byte c.readByte.rest = none := by
      cases hrest : c.readByte.rest with
      | nil => rfl
      | cons n bs =>
        rw [hrest] at hequals
        exact if_neg (by simpa using hequals)
    rw [if_neg hequals, if_neg hequals, hnone, singleSign]
    split <;> simp_all

theorem moves_run {p : UInt8 → Bool} (hp : p c.byte) :
    Moves (1 + (c.readByte.rest.takeWhile p).length) c (c.skipWhile p) := by
  have hmoves := h.moves_skipWhile p
  rwa [h.rest_eq_cons he, List.takeWhile_cons_of_pos hp, List.length_cons, Nat.add_comm] at hmoves

theorem scan?_of_lexeme {k : Kind} {kind : String → Kind}
    (hlexeme : lexeme c.byte c.readByte.rest = (k, m)) (hd : Moves (1 + m) c d)
    (hscan : c.scan? = d.token? kind c.position)
    (hkind : kind (latin (c.byte :: c.readByte.rest.take m)) = k) :
    ∃ d, Moves (1 + (lexeme c.byte c.readByte.rest).2) c d ∧
      c.scan? = some (⟨(lexeme c.byte c.readByte.rest).1,
        latin (c.byte :: c.readByte.rest.take (lexeme c.byte c.readByte.rest).2),
        ⟨c.position,c.position + 1 + (lexeme c.byte c.readByte.rest).2⟩⟩, d) := by
  rw [hlexeme, hscan, h.token?_eq he hd, hkind]
  exact ⟨d,hd,rfl⟩

theorem exists_scan? :
    ∃ d, Moves (1 + (lexeme c.byte c.readByte.rest).2) c d ∧
      c.scan? = some (⟨(lexeme c.byte c.readByte.rest).1,
        latin (c.byte :: c.readByte.rest.take (lexeme c.byte c.readByte.rest).2),
        ⟨c.position,c.position + 1 + (lexeme c.byte c.readByte.rest).2⟩⟩, d) := by
  have hfirst := h.moves_readByte he
  rcases letter_or_digit_or_other c.byte with hl | hd | ⟨hl,hd⟩
  · apply h.scan?_of_lexeme he (lexeme_of_letter hl) (h.moves_run he hl)
    · rw [scan?, if_pos hl]
    · rw [take_length_takeWhile]
  · have hl : ¬isLetter c.byte := fun hl => ((classes_disjoint c.byte).1 hl).1 hd
    apply h.scan?_of_lexeme he (lexeme_of_digit hd) (h.moves_run he hd)
    · rw [scan?, if_neg hl, if_pos hd]
    · rfl
  · have hsign := h.sign_eq he
    have hlexeme : lexeme c.byte c.readByte.rest = _ := lexeme_of_sign hl hd
    cases ho : doubleSign? c.byte c.readByte.rest with
    | none =>
      rw [ho] at hsign hlexeme
      apply h.scan?_of_lexeme he hlexeme hfirst
      · rw [scan?, if_neg hl, if_neg hd, hsign]
      · rfl
    | some o =>
      rw [ho] at hsign hlexeme
      have hne : ¬c.readByte.atEnd := by
        intro hend
        rw [rest_of_atEnd hend] at ho
        cases ho
      have hsecond := (wellFormed_readByte c).moves_readByte hne
      apply h.scan?_of_lexeme he hlexeme (hfirst.trans hsecond)
      · rw [scan?, if_neg hl, if_neg hd, hsign]
      · rfl

end

theorem exists_next? (h : c.WellFormed) :
    ∃ d, c.next? = some (c.lexer.next.1, d) ∧ d.WellFormed ∧ d.input = c.input ∧
      d.lexer = c.lexer.next.2 := by
  have hmoves := h.moves_skipWhile isBlank
  rw [next?, Lexer.next, ← h.lexer_skipBlanks, lexer]
  generalize c.skipWhile isBlank = first at hmoves ⊢
  have hfirst := hmoves.wellFormed
  by_cases he : first.atEnd
  · rw [rest_of_atEnd he]
    refine ⟨first,if_pos he,hfirst,hmoves.input,?_⟩
    rw [lexer, rest_of_atEnd he]
  · obtain ⟨d,hd,hscan⟩ := hfirst.exists_scan? he
    have hrest := hd.rest
    rw [hfirst.rest_eq_cons he] at hrest ⊢
    refine ⟨d,(if_neg he).trans hscan,hd.wellFormed,hd.input.trans hmoves.input,?_⟩
    rw [lexer, hd.position, hrest, ← Nat.add_assoc, Nat.add_comm 1, List.drop_succ_cons]

theorem exists_read? (h : c.WellFormed) (n : Nat) :
    ∃ d, c.read? n = some (c.lexer.ahead n, d) ∧ d.WellFormed ∧ d.input = c.input ∧
      d.lexer = c.lexer.skip n := by
  induction n generalizing c with
  | zero => exact ⟨c,rfl,h,rfl,rfl⟩
  | succ n ih =>
    obtain ⟨d,hnext,hd,hinput,hlexer⟩ := h.exists_next?
    obtain ⟨e,hread,he,hinput',hlexer'⟩ := ih hd
    rw [hlexer] at hread hlexer'
    refine ⟨e,?_,he,hinput'.trans hinput,hlexer'⟩
    rw [read?, hnext]
    simp only [Option.bind_eq_bind, Option.bind_some, hread]
    rfl

theorem exists_restart (h : c.WellFormed) (k : Nat) :
    ∃ ts d e, (ofBytes (c.input.drop c.position)).read? k = some (ts, e) ∧
      c.read? k = some (ts.map (Token.shift c.position), d) ∧
      d.position = e.position + c.position := by
  have hshift : c.lexer = (Lexer.ofBytes c.rest).shift c.position := by
    rw [lexer, Lexer.ofBytes, Lexer.shift, Nat.zero_add]
  obtain ⟨d,hread,_,_,hd⟩ := h.exists_read? k
  obtain ⟨e,hfresh,_,_,he⟩ := (wellFormed_ofBytes c.rest).exists_read? k
  rw [hshift, Lexer.ahead_shift] at hread
  rw [hshift, Lexer.skip_shift] at hd
  rw [lexer_ofBytes] at hfresh he
  refine ⟨_,d,e,hfresh,hread,?_⟩
  rw [← he] at hd
  exact congrArg Lexer.offset hd

end WellFormed

end

theorem read?_restarts (input : List UInt8) (n : Nat) :
    ∃ ts c, (ofBytes input).read? n = some (ts, c) ∧ c.input = input ∧ c.WellFormed ∧
      ts = (Lexer.ofBytes input).ahead n ∧ c.lexer = (Lexer.ofBytes input).skip n ∧
      (∀ t ∈ ts, t.span.Within input.length ∧ t.literal = latin (t.span.slice input)) ∧
      ∀ k, ∃ us d e, (ofBytes (input.drop c.position)).read? k = some (us, e) ∧
        c.read? k = some (us.map (Token.shift c.position), d) ∧
        c.position ≤ d.position ∧ d.position = e.position + c.position := by
  obtain ⟨c,hread,hc,hinput,hlexer⟩ := (wellFormed_ofBytes input).exists_read? n
  rw [lexer_ofBytes] at hread hlexer
  rw [input_ofBytes] at hinput
  refine ⟨_,c,hread,hinput,hc,rfl,hlexer,fun t => Lexer.slice_of_mem_ahead,?_⟩
  intro k
  obtain ⟨us,d,e,hfresh,hus,hposition⟩ := hc.exists_restart k
  rw [hinput] at hfresh
  have hle : c.position ≤ d.position := by
    rw [hposition]
    exact Nat.le_add_left _ _
  exact ⟨us,d,e,hfresh,hus,hle,hposition⟩

theorem read?_restarts_nul :
    ∃ ts c, (ofBytes [0x00, 0x3D, 0x3D]).read? 2 = some (ts, c) ∧ c.WellFormed ∧
      (⟨.operator .eq,"==",⟨1,3⟩⟩ : Token) ∈ ts ∧ Span.Within 3 ⟨1,3⟩ ∧
      "==" = latin (Span.slice ⟨1,3⟩ [0x00, 0x3D, 0x3D]) := by
  obtain ⟨ts,c,hread,_,hc,hahead,_,hslice,_⟩ := read?_restarts [0x00, 0x3D, 0x3D] 2
  have hmem : (⟨.operator .eq,"==",⟨1,3⟩⟩ : Token) ∈ ts := by
    rw [hahead]
    decide +kernel
  exact ⟨ts,c,hread,hc,hmem,hslice _ hmem⟩

end Cursor

end LetLang
