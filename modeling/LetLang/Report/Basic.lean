import LetLang.Text.Columns
import LetLang.Text.Lines
import LetLang.Report.Diagnostic

namespace LetLang

open Text

namespace Report

def contextLines : Nat := 2

def linesThrough (stop : Nat) : Nat → List Line → List Line
  | 0, _ => []
  | _ + 1, [] => []
  | n + 1, l :: ls =>
    l :: linesThrough stop (if l.isClosed && stop ≤ l.textStop then n else n + 1) ls

def joinReturns : List Line → List Line
  | [] => []
  | l :: ls =>
    if l.ending = ['\r'] then
      match joinReturns ls with
      | [] => [⟨l.start,l.stop,l.chars,[]⟩]
      | m :: ms => ⟨l.start,m.textStop,l.chars ++ m.text,m.ending⟩ :: ms
    else l :: joinReturns ls

def dropBlankEnd (ls : List Line) : List Line :=
  match ls.getLast? with
  | some l => if l.chars.isEmpty then ls.dropLast else ls
  | none => ls

def number (n : Nat) : List Line → List (Nat × Line)
  | [] => []
  | [l] => [(if !l.isClosed && l.text.getLast? = some '\r' then n - 1 else n, l)]
  | l :: ls => (n, l) :: number (n + 1) ls

def columnWithin (p : Place) (n : Nat) : List Char → Nat
  | [] => p.column
  | c :: cs => if c.utf8Size ≤ n then columnWithin (p.next c) (n - c.utf8Size) cs else p.column

def columnThrough (p : Place) (n : Nat) : List Char → Nat
  | [] => p.column
  | c :: cs => if 0 < n then columnThrough (p.next c) (n - c.utf8Size) cs else p.column

def spaces (n : Nat) : String :=
  "".pushn ' ' n

def rule (n : Nat) : String :=
  "".pushn '─' n

def marker (margin : String) (label : String) (l : Line) (s : Span) : List String :=
  if s.start < s.stop && l.start ≤ s.start && s.start < l.stop then
    let first := columnWithin .start (s.start - l.start) l.text
    let last := max (first + 1) (columnThrough .start (s.stop - l.start) l.text)
    let middle := (first + last) / 2
    [margin ++ "· " ++ spaces first ++ rule (middle - first) ++ "┬" ++ rule (last - middle - 1),
      margin ++ "· " ++ spaces middle ++ "╰── " ++ label]
  else []

def numbered (width n : Nat) (l : Line) : String :=
  let digits := toString n
  " " ++ spaces (width - digits.length) ++ digits ++ " │ " ++ String.ofList (expandTabs l.text)

end Report

def Renderer.framed : Renderer := fun d source =>
  let stop := d.offset + d.length
  let lines := lines source.toList
  let before := lines.takeWhile fun l => l.isClosed && l.stop ≤ d.offset
  let lineStart := (before.getLast?.map Line.stop).getD 0
  let skipped := before.length - Report.contextLines
  let shown := Report.linesThrough stop (Report.contextLines + 1) (lines.drop skipped)
  let rows := Report.number (skipped + 1) (Report.dropBlankEnd (Report.joinReturns shown))
  let width := (toString ((rows.getLast?.map Prod.fst).getD 0)).length
  let margin := Report.spaces (width + 2)
  let place := toString (before.length + 1) ++ ":" ++ toString (d.offset - lineStart + 1)
  let heading := [d.code, "", "  × " ++ d.message,
    margin ++ "╭─[" ++ d.sourceName ++ ":" ++ place ++ "]"]
  let body := rows.flatMap fun (n, l) =>
    Report.numbered width n l :: Report.marker margin d.label l ⟨d.offset,stop⟩
  let help := d.help.toList.map ("  help: " ++ ·)
  String.join ((heading ++ body ++ [margin ++ "╰────"] ++ help).map (· ++ "\n"))

def reports (sourceName source : String) (faults : List Fault) (draw : Renderer := .framed) :
    String :=
  "\n".intercalate (faults.map fun e => draw (e.diagnostic sourceName) source)

end LetLang
