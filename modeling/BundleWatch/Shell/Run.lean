import BundleWatch.Shell.Arithmetic
import BundleWatch.Shell.Parser
import BundleWatch.Shell.State
import BundleWatch.Tool.Catalog

/-!
# Running scripts

A script runs from a state and goes on with what is next, or quits the shell. What it does in between is
a thread, so that other threads can act while it sleeps. The first argument bounds the steps.
-/

set_option autoImplicit false

namespace BundleWatch.Shell

def gaveUp : Nat := 125

def notFound : Nat := 127
def notExecutable : Nat := 126

def finish : Next := fun s => .exit s.status

def check (s : State) (next quit : Next) : Thread :=
  if s.status ≠ 0 && s.stopsOnError && !s.guarded then quit s else next s

def runUnknown (name : String) (s : State) (next : Next) : Thread :=
  onDisk s (fun d => (d, name.toList.contains '/' && d.isThere ⟨name⟩)) fun there =>
    if there then complain s (name ++ ": Permission denied") notExecutable next
    else complain s (name ++ ": not found") notFound next

/-- Whether a word holds the output of a script, whose status then is that of the assignment. -/
def holdsOutput (w : Word) : Bool :=
  w.any fun
    | .output _ _ => true
    | _ => false

def changeDir (args : List String) (s : State) (next : Next) : Thread :=
  match args with
  | [] => next (s.endWith 0)
  | name :: _ =>
    onDisk s (fun d => (d, d.stat ⟨name⟩)) fun
      | .ok (l, .dir) => next ({ s with dir := l }.endWith 0)
      | _ => complain s ("cd: can't cd to " ++ name) 2 next

def readLine (names : List String) (s : State) (next : Next) : Thread :=
  let line := s.input.takeWhile (· ≠ 10)
  let rest := s.input.drop line.length
  let s := { s with input := rest.tail }
  let rec give : List String → List String → List (String × String)
    | [], _ => []
    | [n], ws => [(n, " ".intercalate ws)]
    | n :: ns, ws => (n, ws.headD "") :: give ns ws.tail
  let words := Text.words (Bytes.lossyText line)
  next ((s.assignAll (give names words)).endWith (if rest.isEmpty then 1 else 0))

def setOptions : List String → State → State
  | [], s => s
  | "--" :: args, s => { s with args := args }
  | a :: args, s =>
    match stopFlag? a with
    | some b => setOptions args { s with stopsOnError := b }
    | none => if a.startsWith "-" || a.startsWith "+" then setOptions args s else { s with args := a :: args }

mutual

def expand : Nat → Word → State → (State → List Piece → Thread) → Thread
  | 0, _, _, _ => .exit gaveUp
  | _ + 1, [], s, next => next s []
  | n + 1, f :: w, s, next =>
    let more (s : State) (ps : List Piece) := expand n w s fun s qs => next s (ps ++ qs)
    match f with
    | .plain t => more s ((bare t).map .sign)
    | .quoted t => more s (valuePieces t true)
    | .variable "@" none true =>
      more s ((s.args.map fun a => valuePieces a true).intersperse [.gap]).flatten
    | .variable name change isQuoted =>
      let value := s.value? name
      more s (valuePieces (match change with
        | some c => c.apply value
        | none => value.getD "") isQuoted)
    | .arithmetic text =>
      match Arithmetic.eval? s.value? text with
      | some value => more s (valuePieces (toString value) false)
      | none => .exit 2
    | .output script isQuoted =>
      let after (inner : State) : Thread :=
        let bs := (inner.piped.reverse.dropWhile (· = 10)).reverse
        more { s with status := inner.status, input := inner.input }
          (valuePieces (Bytes.lossyText bs) isQuoted)
      runText n script { s with output := .pipe, piped := [] } after after

def expandAll : Nat → List Word → State → (State → List String → Thread) → Thread
  | 0, _, _, _ => .exit gaveUp
  | _ + 1, [], s, next => next s []
  | n + 1, w :: ws, s, next =>
    expand n w s fun s ps =>
      onDisk s (fun d => (d, (fields ps).flatMap (fieldTexts d))) fun texts =>
        expandAll n ws s fun s more => next s (texts ++ more)

def expandAssignments : Nat → List (String × Word) → State → (State → List (String × String) → Thread) →
    Thread
  | 0, _, _, _ => .exit gaveUp
  | _ + 1, [], s, next => next s []
  | n + 1, (name, w) :: rest, s, next =>
    expand n w s fun s ps => expandAssignments n rest s fun s more =>
      next s ((name, wholeText ps) :: more)

def redirectAll : Nat → List Redirection → State → Next → Next → Thread
  | 0, _, _, _, _ => .exit gaveUp
  | _ + 1, [], s, next, _ => next s
  | n + 1, r :: rs, s, next, failed =>
    expand n r.target s fun s ps =>
      redirect s r.channel r.mode (wholeText ps) (fun s => redirectAll n rs s next failed) failed

def runText : Nat → String → State → Next → Next → Thread
  | 0, _, _, _, _ => .exit gaveUp
  | n + 1, text, s, next, quit =>
    match Script.parse text with
    | .ok script => run n script s next quit
    | .error e => complain s e.message 2 quit

def leave : Nat → State → Next → Thread
  | 0, _, _ => .exit gaveUp
  | n + 1, s, next =>
    match s.traps.lookup 0 with
    | none => next s
    | some script =>
      let after (t : State) : Thread := next (t.endWith s.status)
      runText n script { s with traps := [] } after after

def runShell : Nat → List String → State → Next → Thread
  | 0, _, _, _ => .exit gaveUp
  | n + 1, args, s, next =>
    let quit (t : State) : Thread := leave n t next
    match args with
    | [] => runText n (Bytes.lossyText s.input) { s with input := [] } quit quit
    | a :: rest =>
      match a.toList with
      | '-' :: cs =>
        let s := if cs.contains 'e' then { s with stopsOnError := true } else s
        if cs.contains 'c' then
          match rest with
          | [] => complain { s with name := "sh" } "-c requires an argument" 2 next
          | script :: args =>
            runText n script { s with name := args.headD "sh", args := args.tail } quit quit
        else runShell n rest s next
      | _ =>
        onDisk s (fun d => (d, Tool.readFile d a)) fun
          | .ok bs => runText n (Bytes.lossyText bs) { s with name := a, args := rest } quit quit
          | .error e => complain { s with name := "sh" } (openFault false a e) 2 next

def call : Nat → String → List String → State → Next → Next → Thread
  | 0, _, _, _, _, _ => .exit gaveUp
  | n + 1, name, args, s, next, quit =>
    match programName name with
    | "exit" =>
      match args with
      | [] => quit s
      | a :: _ =>
        match a.toNat? with
        | some code => quit (s.endWith (code % 256))
        | none => complain s ("exit: Illegal number: " ++ a) 2 quit
    | "exec" =>
      match args with
      | [] => next (s.endWith 0)
      | name :: args => call n name args s quit quit
    | "command" =>
      match args with
      | [] => next (s.endWith 0)
      | name :: args => call n name args s next quit
    | "cd" => changeDir args s next
    | "set" => next ((setOptions args s).endWith 0)
    | "shift" => next ({ s with args := s.args.tail }.endWith 0)
    | "export" =>
      let given := args.filterMap fun a =>
        match a.splitOn "=" with
        | name :: value :: more => some (name, "=".intercalate (value :: more))
        | _ => none
      next (((s.assignAll given).exportAll (args.map fun a => (a.splitOn "=").headD "")).endWith 0)
    | "unset" => next ({ s with vars := s.vars.filter fun v => !args.contains v.1 }.endWith 0)
    | "read" => readLine (args.filter (· ≠ "-r")) s next
    | "eval" => runText n (" ".intercalate args) s next quit
    | "." =>
      match args with
      | [] => next (s.endWith 0)
      | file :: _ =>
        onDisk s (fun d => (d, Tool.readFile d file)) fun
          | .ok bs => runText n (Bytes.lossyText bs) s next quit
          | .error e => complain s (".: " ++ openFault false file e) 2 quit
    | "trap" =>
      match args with
      | action :: names =>
        let numbers := names.filterMap signal?
        let kept := s.traps.filter fun t => !numbers.contains t.1
        next ({ s with traps := if action = "-" then kept else kept ++ numbers.map (·, action) }.endWith 0)
      | [] => next (s.endWith 0)
    | "sleep" =>
      match args.mapM milliseconds? with
      | some (t :: ts) => .sleep ((t :: ts).foldl (· + ·) 0) (next (s.endWith 0))
      | _ => complain s "sleep: invalid time interval" 1 next
    | "break" => next { s with status := 0, jump := some .leave }
    | "continue" => next { s with status := 0, jump := some .again }
    | "wait" =>
      let target := (args.head?.bind String.toNat?).map fun p => p - s.pid
      .wait target fun code => next (s.endWith code)
    | "kill" =>
      match killArgs? args with
      | none => complain s "kill: Illegal option" 2 next
      | some (signal, receivers) => sendAll n signal receivers (s.endWith 0) next quit
    | name =>
      if shellNames.contains name then
        runShell n args { s.forProgram with name := name } fun t => next (s.afterApart t)
      else
        match Tool.find? name with
        | some tool => runTool tool args s next
        | none => runUnknown name s next

def sendAll : Nat → Nat → List String → State → Next → Next → Thread
  | 0, _, _, _, _, _ => .exit gaveUp
  | _ + 1, _, [], s, next, _ => next s
  | n + 1, signal, r :: rs, s, next, quit =>
    let more (s : State) : Thread := sendAll n signal rs s next quit
    match r.toNat? with
    | none => complain s ("kill: Illegal number: " ++ r) 2 next
    | some p =>
      if p = s.pid ∨ p = 0 then
        match (if signal = 9 then none else s.traps.lookup signal) with
        | some "" => more s
        | some script => runText n script s (fun t => more (t.endWith s.status)) quit
        | none =>
          if isHarmless signal then more s
          else if s.nested then quit (s.endWith (128 + signal))
          else .signal 0 signal (more s)
      else if s.pid < p && p ≤ s.pid + s.child.getD 0 then
        if isHarmless signal then more s else .signal (p - s.pid) signal (more s)
      else complain s "kill: No such process" 1 more

def run : Nat → Script → State → Next → Next → Thread
  | 0, _, _, _, _ => .exit gaveUp
  | n + 1, script, s, next, quit =>
    let guard (s : State) : State := { s with guarded := true }
    let unguard (t : State) : State := { t with guarded := s.guarded }
    match script with
    | .skip => next (s.endWith 0)
    | .simple assignments words redirections =>
      let inputToo := redirections.any (·.mode = .read)
      expandAll n words s fun s texts =>
        expandAssignments n assignments s fun s values =>
          match texts with
          | [] =>
            redirectAll n redirections s
              (fun t =>
                let t := (t.restore s inputToo).assignAll values
                check (if assignments.any fun a => holdsOutput a.2 then t else t.endWith 0) next quit)
              fun t => next (t.restore s inputToo)
          | name :: args =>
            redirectAll n redirections s
              (fun t =>
                if name = "exec" ∧ args = [] then next (t.endWith 0)
                else
                  call n name args ((t.assignAll values).exportAll (values.map (·.1)))
                    (fun u =>
                      let u := u.restore s inputToo
                      check (if values.isEmpty then u
                        else { u with vars := s.vars, exported := s.exported }) next quit)
                    quit)
              fun t => check (t.restore s inputToo) next quit
    | .redirected body redirections =>
      let inputToo := redirections.any (·.mode = .read)
      redirectAll n redirections s
        (fun t => run n body t (fun u => next (u.restore s inputToo)) quit)
        fun t => check (t.restore s inputToo) next quit
    | .subshell body =>
      let after (t : State) : Thread := check (s.afterApart t) next quit
      run n body s after after
    | .both first second =>
      run n first s (fun t => if t.jump.isSome then next t else run n second t next quit) quit
    | .andThen first second =>
      run n first (guard s) (fun t =>
        let t := unguard t
        if t.status = 0 && t.jump.isNone then run n second t next quit else next t) quit
    | .orElse first second =>
      run n first (guard s) (fun t =>
        let t := unguard t
        if t.status = 0 then next t else run n second t next quit) quit
    | .negate body =>
      run n body (guard s) (fun t =>
        next ((unguard t).endWith (if t.status = 0 then 1 else 0))) quit
    | .pipe source target =>
      let afterTarget (t : State) : Thread :=
        check { s with status := t.status, piped := t.piped } next quit
      let afterSource (t : State) : Thread :=
        run n target { s with input := t.piped } afterTarget afterTarget
      run n source { s with output := .pipe, piped := [] } afterSource afterSource
    | .background body =>
      .fork (run n body { s with input := [] } finish finish) fun id =>
        next ({ s with child := some id }.endWith 0)
    | .choose condition yes no =>
      run n condition (guard s) (fun t =>
        if t.status = 0 then run n yes (unguard t) next quit
        else run n no (unguard t) next quit) quit
    | .loop whileFails condition body =>
      run n condition (guard s) (fun t =>
        if (t.status != 0) == whileFails then
          run n body (unguard t) (fun u =>
            if u.jump = some .leave then next { u with jump := none }
            else run n (.loop whileFails condition body) { u with jump := none } next quit) quit
        else next ((unguard t).endWith 0)) quit
    | .each name items body =>
      expandAll n items s fun s texts => runEach n name texts body (s.endWith 0) next quit

def runEach : Nat → String → List String → Script → State → Next → Next → Thread
  | 0, _, _, _, _, _, _ => .exit gaveUp
  | _ + 1, _, [], _, s, next, _ => next s
  | n + 1, name, text :: texts, body, s, next, quit =>
    run n body (s.assign name text) (fun s =>
      if s.jump = some .leave then next { s with jump := none }
      else runEach n name texts body { s with jump := none } next quit) quit

end

def patience : Nat := 100000

def programNames : List String := shellNames ++ ["sleep", "kill"]

/-- A program is a tool, a shell, or one of a few others. The tool that does nothing is known to shells
only. -/
def isProgram (name : String) : Bool :=
  programNames.contains (programName name) ||
    ((Tool.find? (programName name)).isSome && programName name ≠ ":")

def thread (pid : Nat) (dir : Location) : List String → Thread
  | [] => .exit 0
  | name :: args =>
    let s : State := { dir := dir, pid := pid, name := name }
    if shellNames.contains (programName name) then runShell patience args { s with name := "sh" } finish
    else call patience name args s finish finish

end BundleWatch.Shell
