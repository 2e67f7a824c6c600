namespace LetLang.Text

structure Line where
  start : Nat
  textStop : Nat
  text : List Char
  ending : List Char
  deriving DecidableEq, Repr

namespace Line

def stop (l : Line) : Nat :=
  l.textStop + l.ending.length

def isClosed (l : Line) : Bool :=
  !l.ending.isEmpty

def chars (l : Line) : List Char :=
  l.text ++ l.ending

end Line

structure LineCut where
  closed : List Line
  start : Nat
  here : Nat
  text : List Char

namespace LineCut

def push (k : LineCut) (c : Char) : LineCut :=
  { k with here := k.here + c.utf8Size, text := c :: k.text }

def line (k : LineCut) (ending : List Char) : Line :=
  ⟨k.start,k.here,k.text.reverse,ending⟩

def close (k : LineCut) (ending : List Char) : LineCut :=
  let next := k.here + ending.length
  ⟨k.line ending :: k.closed,next,next,[]⟩

def lines (k : LineCut) : List Char → List Line
  | [] => (k.line [] :: k.closed).reverse
  | '\r' :: '\n' :: cs => (k.close ['\r', '\n']).lines cs
  | '\r' :: cs => (k.close ['\r']).lines cs
  | '\n' :: cs => (k.close ['\n']).lines cs
  | c :: cs => (k.push c).lines cs

end LineCut

def lines (cs : List Char) : List Line :=
  LineCut.lines ⟨[],0,0,[]⟩ cs

end LetLang.Text
