import BundleWatch.Tool.Basic

/-!
# Tools for text

Printing, and passing on what a file or the input holds: whole, in part, counted, sorted or with other
letters.
-/

set_option autoImplicit false

namespace BundleWatch.Tool

/-! ## Printing -/

def escaped? : Char → Option Char
  | 'a' => some '\x07'
  | 'b' => some '\x08'
  | 'f' => some '\x0c'
  | 'n' => some '\n'
  | 'r' => some '\r'
  | 't' => some '\t'
  | 'v' => some '\x0b'
  | '\\' => some '\\'
  | _ => none

def isOctal (c : Char) : Bool := '0' ≤ c && c ≤ '7'

def octal (n : Nat) (cs : List Char) : UInt8 × List Char :=
  let digits := (cs.take n).takeWhile isOctal
  ((digits.foldl (fun v c => 8 * v + (c.toNat - '0'.toNat)) 0).toUInt8, cs.drop digits.length)

def echoBytes : Nat → List Char → Bytes × Bool
  | 0, _ => ([], true)
  | _ + 1, [] => ([], true)
  | n + 1, '\\' :: c :: cs =>
    if c = 'c' then ([], false)
    else if c = '0' then
      let (b, rest) := octal 3 cs
      let (bs, more) := echoBytes n rest
      (b :: bs, more)
    else
      let (bs, more) := echoBytes n cs
      match escaped? c with
      | some e => (.ofText (toString e) ++ bs, more)
      | none => (.ofText (String.ofList ['\\', c]) ++ bs, more)
  | n + 1, c :: cs =>
    let (bs, more) := echoBytes n cs
    (.ofText (toString c) ++ bs, more)

def echo : Tool := fun args r =>
  let (args, ending) : List String × Bytes := match args with
    | "-n" :: rest => (rest, [])
    | _ => (args, [10])
  let cs := (" ".intercalate args).toList
  let (bs, more) := echoBytes (cs.length + 1) cs
  r.print (if more then bs ++ ending else bs)

structure Field where
  left : Bool := false
  zeros : Bool := false
  width : Nat := 0
  precision : Option Nat := none

namespace Field

def number (cs : List Char) : Nat × List Char :=
  let digits := cs.takeWhile Char.isDigit
  (digits.foldl (fun v c => 10 * v + (c.toNat - '0'.toNat)) 0, cs.drop digits.length)

def read (cs : List Char) : Field × List Char :=
  let flags := cs.takeWhile fun c => c = '-' ∨ c = '0'
  let (width, rest) := number (cs.drop flags.length)
  let (precision, rest) := match rest with
    | '.' :: more =>
      let (p, more) := number more
      (some p, more)
    | _ => (none, rest)
  (⟨flags.contains '-', flags.contains '0', width, precision⟩, rest)

def pad (f : Field) (s : String) : String :=
  let gap := f.width - s.length
  let fill (c : Char) := String.ofList (List.replicate gap c)
  if f.left then s ++ fill ' ' else if f.zeros then fill '0' ++ s else fill ' ' ++ s

end Field

def formatOnce : Nat → List Char → List String → Bytes × List String
  | 0, _, args => ([], args)
  | _ + 1, [], args => ([], args)
  | n + 1, '\\' :: c :: cs, args =>
    if isOctal c then
      let (b, rest) := octal 3 (c :: cs)
      let (bs, args) := formatOnce n rest args
      (b :: bs, args)
    else
      let (bs, args) := formatOnce n cs args
      let shown := match escaped? c with
        | some e => toString e
        | none => if c = '"' then toString c else String.ofList ['\\', c]
      (.ofText shown ++ bs, args)
  | n + 1, '%' :: cs, args =>
    let (field, rest) := Field.read cs
    match rest with
    | [] => ([37], args)
    | '%' :: rest =>
      let (bs, args) := formatOnce n rest args
      (37 :: bs, args)
    | c :: rest =>
      let arg := args.headD ""
      let (bs, left) := formatOnce n rest args.tail
      let cut (s : String) := match field.precision with
        | some p => String.ofList (s.toList.take p)
        | none => s
      match c with
      | 's' => (.ofText (field.pad (cut arg)) ++ bs, left)
      | 'b' => ((echoBytes (arg.length + 1) arg.toList).1 ++ bs, left)
      | 'c' => (.ofText (field.pad (String.ofList (arg.toList.take 1))) ++ bs, left)
      | _ => (.ofText (field.pad (toString (arg.toInt?.getD 0))) ++ bs, left)
  | n + 1, c :: cs, args =>
    let (bs, args) := formatOnce n cs args
    (.ofText (toString c) ++ bs, args)

def formatAll (format : List Char) : Nat → List String → Bytes
  | 0, _ => []
  | n + 1, args =>
    let (bs, left) := formatOnce (format.length + 1) format args
    if left.isEmpty || left.length = args.length then bs else bs ++ formatAll format n left

def printf : Tool
  | [], r => { r.complain "printf: usage: printf format [arg ...]" with status := 2 }
  | format :: args, r => r.print (formatAll format.toList (args.length + 1) args)

def sequence : Tool := fun args r =>
  let range (first last : Int) :=
    (List.range (last - first + 1).toNat).foldl (fun r i => r.sayLine (toString (first + i))) r
  match args.map String.toInt? with
  | [some last] => range 1 last
  | [some first, some last] => range first last
  | _ => r.complain "seq: invalid argument"

/-! ## Names -/

def baseName : Tool
  | [name], r => r.sayLine (lastName name)
  | [name, ending], r =>
    let base := lastName name
    r.sayLine (if base.endsWith ending && base ≠ ending then
      String.ofList (base.toList.take (base.length - ending.length)) else base)
  | _, r => r.complain "basename: missing operand"

def dirName : Tool
  | [], r => r.complain "dirname: missing operand"
  | names, r => names.foldl (fun r n =>
      let above := ((Path.parent? ⟨n⟩).map (·.text)).getD (if n.startsWith "/" then "/" else ".")
      r.sayLine (if above.isEmpty then "." else above)) r

/-! ## Contents -/

def concatenate : Tool := fun args r =>
  let (bs, r) := operands "cat" (options args).2 r
  r.print bs

def tee : Tool := fun args r =>
  let (flags, names) := options args
  let bs := r.input
  let r := { r with input := [] }.print bs
  names.foldl (fun r n =>
    let before := if flags.contains 'a' then (readFile r.disk n).toOption.getD [] else []
    r.change ("tee: " ++ n) (r.disk.create ⟨n⟩ (before ++ bs))) r

inductive Extent
  | lines (n : Nat)
  | bytes (n : Nat)

def Extent.read : List String → Extent × List String
  | [] => (.lines 10, [])
  | "-n" :: k :: rest => (.lines (k.toNat?.getD 0), rest)
  | "-c" :: k :: rest => (.bytes (k.toNat?.getD 0), rest)
  | a :: rest =>
    match a.toList with
    | '-' :: 'n' :: k => (.lines ((String.ofList k).toNat?.getD 0), rest)
    | '-' :: 'c' :: k => (.bytes ((String.ofList k).toNat?.getD 0), rest)
    | '-' :: k => if k.isEmpty then (.lines 10, a :: rest) else
        (.lines ((String.ofList k).toNat?.getD 0), rest)
    | _ => (.lines 10, a :: rest)

def fullLines (bs : Bytes) : List Bytes :=
  let ls := lines bs
  if bs.getLast? = some 10 then ls.map (· ++ [10])
  else (ls.dropLast.map (· ++ [10])) ++ ls.getLast?.toList

def head : Tool := fun args r =>
  let (extent, names) := Extent.read args
  let (bs, r) := operands "head" names r
  r.print (match extent with
    | .lines n => ((fullLines bs).take n).flatten
    | .bytes n => bs.take n)

def tail : Tool := fun args r =>
  let (extent, names) := Extent.read args
  let (bs, r) := operands "tail" names r
  let last {α : Type} (n : Nat) (xs : List α) := xs.drop (xs.length - n)
  r.print (match extent with
    | .lines n => (last n (fullLines bs)).flatten
    | .bytes n => last n bs)

def wordCount (bs : Bytes) : Nat :=
  let isGap (b : UInt8) := b = 32 || (9 ≤ b && b ≤ 13)
  (bs.foldl (fun (n, inWord) b => (if isGap b || inWord then n else n + 1, !isGap b))
    ((0 : Nat), false)).1

def count : Tool := fun args r =>
  let (flags, names) := options args
  let (bs, r) := operands "wc" names r
  let flags := if flags.isEmpty then ['l', 'w', 'c'] else flags
  let counts :=
    (if flags.contains 'l' then [bs.count 10] else []) ++
    (if flags.contains 'w' then [wordCount bs] else []) ++
    (if flags.contains 'c' || flags.contains 'm' then [bs.length] else [])
  let column (n : Nat) : String := Field.pad ⟨false, false, 7, none⟩ (toString n)
  let shown := match counts with
    | [n] => toString n
    | ns => " ".intercalate (ns.map column)
  r.sayLine (" ".intercalate (shown :: names))

def charSet : Nat → List Char → List Char
  | 0, _ => []
  | _ + 1, [] => []
  | n + 1, '\\' :: c :: cs => (escaped? c).getD c :: charSet n cs
  | n + 1, '[' :: ':' :: cs =>
    let name := String.ofList (cs.takeWhile (· ≠ ':'))
    let ascii := (List.range 128).map Char.ofNat
    let chosen := match name with
      | "lower" => ascii.filter Char.isLower
      | "upper" => ascii.filter Char.isUpper
      | "digit" => ascii.filter Char.isDigit
      | "alpha" => ascii.filter Char.isAlpha
      | "alnum" => ascii.filter Char.isAlphanum
      | "space" => ascii.filter fun c => c = ' ' ∨ ('\t' ≤ c ∧ c ≤ '\r')
      | _ => []
    chosen ++ charSet n (cs.drop (name.length + 2))
  | n + 1, a :: '-' :: b :: cs =>
    ((List.range (b.toNat + 1 - a.toNat)).map fun i => Char.ofNat (a.toNat + i)) ++ charSet n cs
  | n + 1, c :: cs => c :: charSet n cs

def byteSet (s : String) : Bytes :=
  .ofText (String.ofList (charSet (s.length + 1) s.toList))

def recode : Tool := fun args r =>
  let bs := r.input
  let r := { r with input := [] }
  match args with
  | ["-d", set] =>
    let set := byteSet set
    r.print (bs.filter fun b => !set.contains b)
  | [source, target] =>
    let source := byteSet source
    let target := byteSet target
    r.print (bs.map fun b =>
      match source.reverse.idxOf? b with
      | none => b
      | some i =>
        let place := source.length - 1 - i
        (target[place]?.orElse fun _ => target.getLast?).getD b)
  | _ => r.complain "tr: missing operand"

def precedes (a b : Bytes) : Bool := !b.lex a (· < ·)

def numberOf (l : Bytes) : Int :=
  ((l.toText.toOption.bind fun s => s.trimAscii.toString.toInt?)).getD 0

def sortLines : Tool := fun args r =>
  let (flags, names) := options args
  let (bs, r) := operands "sort" names r
  let order (a b : Bytes) : Bool :=
    if flags.contains 'n' && numberOf a ≠ numberOf b then numberOf a < numberOf b else precedes a b
  let ls := (lines bs).mergeSort order
  let ls := if flags.contains 'u' then ls.eraseDups else ls
  r.print (unlines (if flags.contains 'r' then ls.reverse else ls))

def distinct : List Bytes → List Bytes
  | a :: b :: rest => if a = b then distinct (b :: rest) else a :: distinct (b :: rest)
  | ls => ls

def unique : Tool := fun args r =>
  let (bs, r) := operands "uniq" (options args).2 r
  r.print (unlines (distinct (lines bs)))

end BundleWatch.Tool
