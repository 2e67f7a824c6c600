import LetLang.Proofs.Bounds

namespace LetLang

inductive Call where
  | token
  | item
  | take (n : Nat)
  | rest
  | count
  deriving DecidableEq, Repr

inductive Answer where
  | token (t : Token)
  | item (t : Option Token)
  | items (ts : List Token)
  | number (n : Nat)
  deriving DecidableEq, Repr

def Answer.IsEnd : Answer → Prop
  | token t => t.kind = .eof
  | item t => t = none
  | items _ | number _ => False

def Answer.tokens : Answer → List Token
  | token t => if t.kind = .eof then [] else [t]
  | item t => t.toList
  | items ts => ts
  | number _ => []

namespace Call

def answer (lx : Lexer) : Call → Answer
  | token => .token lx.next.1
  | item => .item lx.next?.1
  | take n => .items (lx.take n).1
  | rest => .items lx.drain.1
  | count => .number lx.drain.1.length

def after (lx : Lexer) : Call → Lexer
  | token => lx.next.2
  | item => lx.next?.2
  | take n => (lx.take n).2
  | rest => lx.drain.2
  | count => lx.drain.2

def handed (lx : Lexer) : Call → List Token
  | count => lx.drain.1
  | c => (c.answer lx).tokens

def read (last : Token) (ts : List Token) : Call → Answer
  | token => .token (ts.headD last)
  | item => .item ts.head?
  | take n => .items (ts.take n)
  | rest => .items ts
  | count => .number ts.length

def steps (lx : Lexer) : Call → Nat
  | token => 1
  | item => 1
  | take n => n
  | rest => lx.tokens.length + 1
  | count => lx.tokens.length + 1

end Call

namespace Lexer

def spent (lx : Lexer) : Lexer :=
  ⟨lx.offset + lx.rest.length,[]⟩

theorem spent_eq {lx ly : Lexer} (h : lx.last = ly.last) : lx.spent = ly.spent :=
  congrArg (fun t => (⟨t.span.start,[]⟩ : Lexer)) h

theorem skip_spent (n : Nat) (lx : Lexer) : lx.spent.skip n = lx.spent := by
  induction n with
  | zero => rfl
  | succ n ih => exact ih

theorem after_of_eof {lx : Lexer} (h : lx.next.1.kind = .eof) : lx.next.2 = lx.spent := by
  rw [next_of_eof h]
  rfl

theorem skip_of_length_lt {lx : Lexer} {n : Nat} (h : lx.tokens.length < n) :
    lx.skip n = lx.spent := by
  induction lx using stream_induction generalizing n with
  | eof lx he =>
    obtain ⟨n,rfl⟩ := Nat.exists_eq_add_one_of_ne_zero (Nat.ne_zero_of_lt h)
    rw [skip, after_of_eof he, skip_spent]
  | token lx he ih =>
    obtain ⟨n,rfl⟩ := Nat.exists_eq_add_one_of_ne_zero (Nat.ne_zero_of_lt h)
    rw [tokens_of_ne_eof he, List.length_cons] at h
    rw [skip, ih (Nat.lt_of_succ_lt_succ h), spent_eq lx.next_last]

theorem tokens_eq_nil_iff {lx : Lexer} : lx.tokens = [] ↔ lx.next.1.kind = .eof := by
  constructor
  · intro hnil
    by_contra he
    rw [tokens_of_ne_eof he] at hnil
    cases hnil
  · exact tokens_of_eof

theorem drain_after (lx : Lexer) : lx.drain.2 = lx.skip (lx.tokens.length + 1) := by
  induction lx using stream_induction with
  | eof lx he =>
    rw [drain_of_eof he, tokens_of_eof he]
    rfl
  | token lx he ih =>
    rw [drain_of_ne_eof he, tokens_of_ne_eof he]
    exact ih

theorem next?_eq (lx : Lexer) : lx.next? = (lx.tokens.head?, lx.next.2) := by
  by_cases he : lx.next.1.kind = .eof
  · rw [tokens_of_eof he, next?]
    simp only [he, if_true, List.head?_nil]
  · rw [tokens_of_ne_eof he, next?]
    simp only [he, if_false, List.head?_cons]

theorem takeOnto_eq (acc : List Token) (n : Nat) (lx : Lexer) :
    lx.takeOnto acc n = (acc.reverse ++ lx.tokens.take n, lx.skip n) := by
  induction n generalizing acc lx with
  | zero => rw [takeOnto, List.take_zero, List.append_nil, skip]
  | succ n ih =>
    by_cases he : lx.next.1.kind = .eof
    · rw [takeOnto, next?_eq, tokens_of_eof he, skip, after_of_eof he, skip_spent, List.take_nil,
        List.append_nil]
      rfl
    · rw [takeOnto, next?_eq, tokens_of_ne_eof he, skip]
      simp only [List.head?_cons, ih, List.reverse_cons, List.append_assoc, List.singleton_append,
        List.take_succ_cons]

theorem take_eq (n : Nat) (lx : Lexer) : lx.take n = (lx.tokens.take n, lx.skip n) :=
  takeOnto_eq [] n lx

end Lexer

namespace Call

theorem after_eq_skip (lx : Lexer) (c : Call) : c.after lx = lx.skip (c.steps lx) := by
  cases c with
  | token => rfl
  | item => exact congrArg Prod.snd lx.next?_eq
  | take n => exact congrArg Prod.snd (lx.take_eq n)
  | rest | count => exact lx.drain_after

theorem handed_eq_take (lx : Lexer) (c : Call) :
    c.handed lx = lx.tokens.take (c.steps lx) := by
  cases c with
  | token =>
    change (Answer.token lx.next.1).tokens = lx.tokens.take 1
    by_cases he : lx.next.1.kind = .eof
    · rw [Answer.tokens, if_pos he, Lexer.tokens_of_eof he, List.take_nil]
    · rw [Answer.tokens, if_neg he, Lexer.tokens_of_ne_eof he]
      rfl
  | item =>
    change lx.next?.1.toList = lx.tokens.take 1
    rw [Lexer.next?_eq]
    cases lx.tokens <;> rfl
  | take n => exact congrArg Prod.fst (lx.take_eq n)
  | rest | count => exact (List.take_of_length_le (Nat.le_succ _)).symm

theorem answer_eq_read (lx : Lexer) (c : Call) : c.answer lx = c.read lx.last lx.tokens := by
  cases c with
  | token => rw [answer, Lexer.next_eq_head, read]
  | item => rw [answer, Lexer.next?_eq, read]
  | take n => rw [answer, Lexer.take_eq, read]
  | rest | count => rfl

theorem handed_append_tokens (lx : Lexer) (c : Call) :
    c.handed lx ++ (c.after lx).tokens = lx.tokens := by
  rw [handed_eq_take, after_eq_skip, Lexer.tokens_skip, List.take_append_drop]

theorem last_after (lx : Lexer) (c : Call) : (c.after lx).last = lx.last := by
  rw [after_eq_skip, Lexer.last_skip]

theorem tokens_of_isEnd {lx : Lexer} {c : Call} (h : (c.answer lx).IsEnd) :
    lx.tokens = [] ∧ 0 < c.steps lx := by
  cases c with
  | token => exact ⟨Lexer.tokens_of_eof h,Nat.one_pos⟩
  | item =>
    rw [answer, Lexer.next?_eq] at h
    exact ⟨List.head?_eq_none_iff.mp h,Nat.one_pos⟩
  | take n | rest | count => exact h.elim

theorem after_of_isEnd {lx : Lexer} {c : Call} (h : (c.answer lx).IsEnd) :
    c.after lx = lx.spent := by
  obtain ⟨hnil,hpos⟩ := tokens_of_isEnd h
  rw [after_eq_skip]
  apply Lexer.skip_of_length_lt
  rwa [hnil]

theorem after_spent (lx : Lexer) (c : Call) : c.after lx.spent = lx.spent := by
  rw [after_eq_skip, Lexer.skip_spent]

end Call

namespace Lexer

def run (lx : Lexer) (cs : List Call) : Lexer :=
  cs.foldl (fun l c => c.after l) lx

def handed (lx : Lexer) : List Call → List Token
  | [] => []
  | c :: cs => c.handed lx ++ handed (c.after lx) cs

theorem handed_append_tokens_run (lx : Lexer) (cs : List Call) :
    lx.handed cs ++ (lx.run cs).tokens = lx.tokens := by
  induction cs generalizing lx with
  | nil => rfl
  | cons c cs ih =>
    rw [handed, List.append_assoc, ← c.handed_append_tokens lx, ← ih (c.after lx)]
    rfl

theorem last_run (lx : Lexer) (cs : List Call) : (lx.run cs).last = lx.last := by
  induction cs generalizing lx with
  | nil => rfl
  | cons c cs ih => exact (ih (c.after lx)).trans (c.last_after lx)

theorem run_spent (lx : Lexer) (cs : List Call) : lx.spent.run cs = lx.spent := by
  induction cs with
  | nil => rfl
  | cons c cs ih =>
    rw [run, List.foldl_cons, c.after_spent]
    exact ih

theorem run_append (lx : Lexer) (cs ds : List Call) : lx.run (cs ++ ds) = (lx.run cs).run ds :=
  List.foldl_append

theorem tokens_run (lx : Lexer) (cs : List Call) :
    (lx.run cs).tokens = lx.tokens.drop (lx.handed cs).length := by
  rw [← lx.handed_append_tokens_run cs, List.drop_left]

theorem handed_eq_tokens_iff (lx : Lexer) (cs : List Call) :
    lx.handed cs = lx.tokens ↔ (lx.run cs).tokens = [] := by
  rw [← lx.handed_append_tokens_run cs, List.self_eq_append_right]

theorem tokens_run_nil {lx : Lexer} (h : lx.tokens = []) (cs : List Call) :
    (lx.run cs).tokens = [] := by
  rw [tokens_run, h, List.drop_nil]

theorem run_of_isEnd {lx : Lexer} {cs : List Call} {c : Call} (h : (c.answer (lx.run cs)).IsEnd)
    (ds : List Call) : lx.run (cs ++ c :: ds) = lx.spent := by
  have hc : (lx.run cs).run (c :: ds) = (c.after (lx.run cs)).run ds := rfl
  rw [run_append, hc, Call.after_of_isEnd h, run_spent, spent_eq (lx.last_run cs)]

theorem answer_run (bytes : List UInt8) (cs : List Call) (c : Call) :
    c.answer ((ofBytes bytes).run cs) =
      c.read (.eof bytes.length) ((ofBytes bytes).run cs).tokens := by
  rw [c.answer_eq_read, last_run, last_ofBytes]

theorem handed_prefix_and_answers (bytes : List UInt8) (cs : List Call) :
    (ofBytes bytes).handed cs <+: (ofBytes bytes).tokens ∧
    (∀ c : Call, c.answer ((ofBytes bytes).run cs) =
      c.read (.eof bytes.length)
        ((ofBytes bytes).tokens.drop ((ofBytes bytes).handed cs).length)) ∧
    (((ofBytes bytes).run cs).next.1.kind = .eof ↔
      (ofBytes bytes).handed cs = (ofBytes bytes).tokens) ∧
    (((ofBytes bytes).run cs).next.1 = ⟨.eof,"",⟨bytes.length,bytes.length⟩⟩ ↔
      (ofBytes bytes).handed cs = (ofBytes bytes).tokens) ∧
    (((ofBytes bytes).run cs).next?.1 = none ↔
      (ofBytes bytes).handed cs = (ofBytes bytes).tokens) ∧
    ((ofBytes bytes).handed cs = (ofBytes bytes).tokens → ∀ (ds : List Call) (d : Call),
      d.answer ((ofBytes bytes).run (cs ++ ds)) = d.read (.eof bytes.length) []) ∧
    (∀ c : Call, (c.answer ((ofBytes bytes).run cs)).IsEnd → ∀ ds : List Call,
      (ofBytes bytes).run (cs ++ c :: ds) = ⟨bytes.length,[]⟩) ∧
    lex bytes = (ofBytes bytes).tokens ++ [.eof bytes.length] ∧
    ∀ t ∈ (ofBytes bytes).tokens, t.kind ≠ .eof := by
  have hnil := handed_eq_tokens_iff (ofBytes bytes) cs
  have hkind : ((ofBytes bytes).run cs).next.1.kind = .eof ↔
      (ofBytes bytes).handed cs = (ofBytes bytes).tokens := by
    rw [hnil, tokens_eq_nil_iff]
  refine ⟨⟨_,handed_append_tokens_run (ofBytes bytes) cs⟩,?_,hkind,?_,?_,?_,?_,
    lex_eq_append_eof bytes,fun t => kind_ne_eof_of_mem⟩
  · intro c
    rw [answer_run, tokens_run]
  · constructor
    · intro h
      exact hkind.mp (congrArg Token.kind h)
    · intro h
      rw [next_of_eof (hkind.mpr h), last_run, last_ofBytes]
      rfl
  · rw [hnil, next?_eq]
    exact List.head?_eq_none_iff
  · intro h ds d
    rw [answer_run, run_append, tokens_run_nil (hnil.mp h)]
  · intro c hc ds
    rw [run_of_isEnd hc, spent, ofBytes, Nat.zero_add]

theorem handed_prefix_and_answers_nul :
    (ofBytes [0x61, 0x20, 0x00, 0x3B, 0x20]).handed [.item, .token, .take 1] =
      (ofBytes [0x61, 0x20, 0x00, 0x3B, 0x20]).tokens ∧
    Call.count.answer ((ofBytes [0x61, 0x20, 0x00, 0x3B, 0x20]).run
      [.item, .token, .take 1, .rest]) = .number 0 ∧
    (Call.item.answer ((ofBytes [0x61, 0x20, 0x00, 0x3B, 0x20]).run
      [.item, .token, .take 1])).IsEnd ∧
    (ofBytes [0x61, 0x20, 0x00, 0x3B, 0x20]).run [.item, .token, .take 1, .item, .token] =
      ⟨5,[]⟩ := by
  have hall : (ofBytes [0x61, 0x20, 0x00, 0x3B, 0x20]).handed [.item, .token, .take 1] =
      (ofBytes [0x61, 0x20, 0x00, 0x3B, 0x20]).tokens := by decide +kernel
  obtain ⟨_,_,_,_,hitem,hanswers,hspent,_⟩ :=
    handed_prefix_and_answers [0x61, 0x20, 0x00, 0x3B, 0x20] [.item, .token, .take 1]
  have hend := hitem.mpr hall
  exact ⟨hall,hanswers hall [.rest] .count,hend,hspent .item hend [.token]⟩

end Lexer

end LetLang
