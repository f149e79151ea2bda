import BundleWatch.Output.Manifest
import BundleWatch.Proofs.Reload.Stage

/-!
# Reading the stream back

A client reads the frames by the rules of event streams, line by line. A frame leaves its reader where it found it,
so what a client makes of one message depends on no other; and the messages come back as they were sent if and only
if none of them has a line end, for a frame puts the whole message on one line.
-/

set_option autoImplicit false

namespace BundleWatch

namespace Stream

def EndsLine (c : Char) : Prop := c = '\n' ∨ c = '\r'

instance (c : Char) : Decidable (EndsLine c) := inferInstanceAs (Decidable (_ ∨ _))

def OneLine (message : String) : Prop := ∀ c ∈ message.toList, ¬ EndsLine c

instance (message : String) : Decidable (OneLine message) := inferInstanceAs (Decidable (∀ _ ∈ _, _))

def fieldName (line : List Char) : List Char := line.takeWhile (· ≠ ':')

def fieldValue (line : List Char) : List Char :=
  match line.dropWhile (· ≠ ':') with
  | _ :: ' ' :: value => value
  | _ :: value => value
  | [] => []

def dataValue? (line : List Char) : Option (List Char) :=
  if fieldName line = ['d', 'a', 't', 'a'] then some (fieldValue line) else none

structure EventReader where
  line : List Char := []
  data : List (List Char) := []
  /-- A carriage return came last, so a line feed is still part of that line end. -/
  returned : Bool := false
deriving DecidableEq

namespace EventReader

def message (r : EventReader) : List Char := List.intercalate ['\n'] r.data

def endLine (r : EventReader) : EventReader × List String :=
  if r.line = [] then ({ r with data := [] }, if r.data = [] then [] else [String.ofList r.message])
  else ({ r with line := [], data := r.data ++ (dataValue? r.line).toList }, [])

def take (r : EventReader) (c : Char) : EventReader × List String :=
  if c = '\r' then ({ r.endLine.1 with returned := true }, r.endLine.2)
  else if c = '\n' then if r.returned then ({ r with returned := false }, []) else r.endLine
  else (⟨r.line ++ [c], r.data, false⟩, [])

def feed (r : EventReader) : List Char → EventReader × List String
  | [] => (r, [])
  | c :: cs => (((r.take c).1.feed cs).1, (r.take c).2 ++ ((r.take c).1.feed cs).2)

end EventReader

/-- The messages that a client reads from a whole stream. An event that does not end is not told. -/
def events (text : String) : List String := (EventReader.feed {} text.toList).2

def stream : List String → String
  | [] => ""
  | m :: ms => frame m ++ stream ms

theorem frames_eq_stream (ms : List String) : frames ms = Bytes.ofText (stream ms) := by
  induction ms with
  | nil => rfl
  | cons m ms ih =>
    have happend : Bytes.ofText (frame m ++ stream ms) = Bytes.ofText (frame m) ++ Bytes.ofText (stream ms) := by
      simp [Bytes.ofText, String.toUTF8]
    rw [stream, happend, ← ih, frames, List.flatMap_cons, frames]

/-! ## Lines -/

theorem data_value?_frame (message : List Char) :
    dataValue? ('d' :: 'a' :: 't' :: 'a' :: ':' :: ' ' :: message) = some message := rfl

theorem data_value?_length {line value : List Char} (h : dataValue? line = some value) :
    value.length + 4 ≤ line.length := by
  unfold dataValue? at h
  split at h
  case isFalse => cases h
  case isTrue hname =>
    have hline := congrArg List.length (List.takeWhile_append_dropWhile (p := (· ≠ ':')) (l := line))
    rw [List.length_append, ← fieldName, hname] at hline
    have hvalue : (fieldValue line).length ≤ (line.dropWhile (· ≠ ':')).length := by
      unfold fieldValue
      generalize line.dropWhile (· ≠ ':') = rest
      split <;> simp only [List.length_cons, List.length_nil] <;> omega
    cases h
    simp only [List.length_cons, List.length_nil] at hline
    omega

namespace EventReader

variable {r : EventReader} {c : Char} {cs : List Char}

/-! ## Feeding -/

theorem label_plain : ∀ d ∈ "data: ".toList, ¬ EndsLine d := by simp [EndsLine]

theorem feed_append (r : EventReader) (cs ds : List Char) :
    r.feed (cs ++ ds) = (((r.feed cs).1.feed ds).1, (r.feed cs).2 ++ ((r.feed cs).1.feed ds).2) := by
  induction cs generalizing r with
  | nil => rfl
  | cons c cs ih => rw [List.cons_append, feed, feed, ih, List.append_assoc]

theorem take_cases (r : EventReader) (c : Char) :
    (EndsLine c ∧ ∃ returned, r.take c = ({ r.endLine.1 with returned }, r.endLine.2)) ∨
      (EndsLine c ∧ r.take c = ({ r with returned := false }, [])) ∨
      (¬ EndsLine c ∧ r.take c = (⟨r.line ++ [c], r.data, false⟩, [])) := by
  unfold take
  by_cases hr : c = '\r'
  · rw [if_pos hr]
    exact .inl ⟨.inr hr, true, rfl⟩
  rw [if_neg hr]
  by_cases hn : c = '\n'
  · rw [if_pos hn]
    split
    · exact .inr (.inl ⟨.inl hn, rfl⟩)
    · exact .inl ⟨.inl hn, r.endLine.1.returned, rfl⟩
  · rw [if_neg hn]
    exact .inr (.inr ⟨fun h => h.elim hn hr, rfl⟩)

theorem take_plain (r : EventReader) (h : ¬ EndsLine c) : r.take c = (⟨r.line ++ [c], r.data, false⟩, []) := by
  rcases take_cases r c with ⟨hc, -⟩ | ⟨hc, -⟩ | ⟨-, htake⟩
  · exact absurd hc h
  · exact absurd hc h
  · exact htake

theorem feed_plain (line : List Char) (data : List (List Char)) (h : ∀ c ∈ cs, ¬ EndsLine c) :
    feed ⟨line, data, false⟩ cs = (⟨line ++ cs, data, false⟩, []) := by
  induction cs generalizing line with
  | nil => rw [feed, List.append_nil]
  | cons c cs ih =>
    rw [List.forall_mem_cons] at h
    rw [feed, take_plain _ h.1, ih _ h.2, List.append_assoc]
    rfl

/-- The first line of a frame is one field, as far as the message reaches on it. -/
theorem feed_first (h : ∀ c ∈ cs, ¬ EndsLine c) (hc : EndsLine c) :
    feed {} ("data: ".toList ++ (cs ++ [c])) = (⟨[], [cs], c = '\r'⟩, []) := by
  have hline : ∀ d ∈ "data: ".toList ++ cs, ¬ EndsLine d := by
    intro d hd
    rcases List.mem_append.mp hd with hd | hd
    · exact label_plain d hd
    · exact h d hd
  rw [← List.append_assoc, feed_append, feed_plain [] [] hline, List.nil_append]
  rcases hc with rfl | rfl <;> simp [feed, take, endLine, data_value?_frame cs]

/-! ## The end of a frame -/

def Sound (r : EventReader) : Prop := r.returned = true → r.line = []

theorem sound_empty : Sound {} := fun _ => rfl

theorem end_line_empty (r : EventReader) : r.endLine.1.line = [] := by
  unfold endLine
  split <;> simp [*]

theorem end_line_returned (r : EventReader) : r.endLine.1.returned = r.returned := by
  unfold endLine
  split <;> rfl

theorem take_sound (r : EventReader) (c : Char) : (r.take c).1.Sound := by
  rcases take_cases r c with ⟨-, returned, h⟩ | ⟨-, h⟩ | ⟨-, h⟩ <;> rw [h]
  · exact fun _ => end_line_empty r
  · exact fun hfalse => nomatch hfalse
  · exact fun hfalse => nomatch hfalse

theorem feed_sound (cs : List Char) (h : r.Sound) : (r.feed cs).1.Sound := by
  induction cs generalizing r with
  | nil => exact h
  | cons c cs ih => exact ih (take_sound r c)

theorem feed_blank (h : r.Sound) : (r.feed ['\n', '\n']).1 = {} := by
  have hline : (r.take '\n').1.line = [] ∧ (r.take '\n').1.returned = false := by
    simp only [take, Char.reduceEq, if_true, if_false]
    split
    · exact ⟨h ‹_›, rfl⟩
    · exact ⟨end_line_empty r, (end_line_returned r).trans (Bool.eq_false_iff.mpr ‹_›)⟩
  rw [feed, feed, feed]
  generalize (r.take '\n').1 = r' at hline ⊢
  simp [take, endLine, hline]

/-! ## What is kept -/

theorem take_keeps (r : EventReader) (c : Char) (h : r.data ≠ []) : (r.take c).2 ≠ [] ∨ (r.take c).1.data ≠ [] := by
  rcases take_cases r c with ⟨-, returned, htake⟩ | ⟨-, htake⟩ | ⟨-, htake⟩ <;> rw [htake]
  · show r.endLine.2 ≠ [] ∨ r.endLine.1.data ≠ []
    unfold endLine
    split <;> simp [h]
  · exact .inr h
  · exact .inr h

theorem feed_keeps (r : EventReader) (cs : List Char) (h : r.data ≠ []) :
    (r.feed cs).2 ≠ [] ∨ (r.feed cs).1.data ≠ [] := by
  induction cs generalizing r with
  | nil => exact .inr h
  | cons c cs ih =>
    rw [feed]
    rcases take_keeps r c h with htold | hkept
    · exact .inl (List.append_ne_nil_of_left_ne_nil htold _)
    · exact (ih _ hkept).imp_left fun hlater => List.append_ne_nil_of_right_ne_nil _ hlater

/-! ## How much is told -/

def pending (r : EventReader) : Nat := r.message.length + r.line.length

end EventReader

def totalLength (ms : List String) : Nat := (ms.flatMap String.toList).length

theorem total_length_append (ms ns : List String) : totalLength (ms ++ ns) = totalLength ms + totalLength ns := by
  rw [totalLength, List.flatMap_append, List.length_append, totalLength, totalLength]

theorem total_length_singleton (m : String) : totalLength [m] = m.length := by
  rw [totalLength, List.flatMap_singleton, String.length_toList]

namespace EventReader

theorem intercalate_concat_length (data : List (List Char)) (value : List Char) :
    (List.intercalate ['\n'] (data ++ [value])).length ≤ (List.intercalate ['\n'] data).length + 1 + value.length := by
  induction data with
  | nil => simp [List.intercalate]
  | cons v data ih =>
    cases data with
    | nil => simp [List.intercalate, Nat.add_comm, Nat.add_left_comm]
    | cons w data =>
      simp only [List.cons_append, List.intercalate_cons_cons, List.length_append] at ih ⊢
      omega

/-- A line ends with no more than it had: the value of a field is shorter than its line. -/
theorem end_line_bound (r : EventReader) : r.endLine.1.pending + totalLength r.endLine.2 ≤ r.pending := by
  unfold endLine
  by_cases hline : r.line = []
  · by_cases hdata : r.data = [] <;> simp [hline, hdata, pending, message, totalLength]
  · rw [if_neg hline]
    cases hvalue : dataValue? r.line with
    | none => simp [pending, message, totalLength]
    | some value =>
      have hlength := data_value?_length hvalue
      have hdata := intercalate_concat_length r.data value
      simp only [pending, message, totalLength, Option.toList_some, List.length_nil, List.flatMap_nil]
      omega

theorem take_bound (r : EventReader) (c : Char) :
    (r.take c).1.pending + totalLength (r.take c).2 ≤ r.pending + if EndsLine c then 0 else 1 := by
  rcases take_cases r c with ⟨hc, returned, htake⟩ | ⟨hc, htake⟩ | ⟨hc, htake⟩ <;> rw [htake]
  · rw [if_pos hc]
    exact end_line_bound r
  · rw [if_pos hc]
    exact Nat.le_refl _
  · rw [if_neg hc]
    simp [pending, message, totalLength, Nat.add_assoc]

theorem feed_bound (r : EventReader) (cs : List Char) :
    (r.feed cs).1.pending + totalLength (r.feed cs).2 ≤ r.pending + cs.countP (¬ EndsLine ·) := by
  induction cs generalizing r with
  | nil => exact Nat.le_refl _
  | cons c cs ih =>
    have htake := take_bound r c
    have hrest := ih (r.take c).1
    have hcount : (c :: cs).countP (¬ EndsLine ·) = cs.countP (¬ EndsLine ·) + if EndsLine c then 0 else 1 := by
      by_cases hc : EndsLine c <;> simp [hc]
    simp only [feed, total_length_append, hcount]
    omega

end EventReader

/-! ## Frames -/

open EventReader

variable {m : String}

theorem frame_to_list (m : String) : (frame m).toList = "data: ".toList ++ (m.toList ++ ['\n', '\n']) := by
  simp [frame]

theorem feed_frame (m : String) : (EventReader.feed {} (frame m).toList).1 = {} := by
  have hsound := feed_sound ("data: ".toList ++ m.toList) sound_empty
  rw [frame_to_list, ← List.append_assoc, feed_append, feed_blank hsound]

theorem events_frame_append (m text : String) : events (frame m ++ text) = events (frame m) ++ events text := by
  rw [events, String.toList_append, feed_append, feed_frame]
  rfl

theorem events_stream_each (ms : List String) : events (stream ms) = ms.flatMap fun m => events (frame m) := by
  induction ms with
  | nil => rfl
  | cons m ms ih => rw [stream, events_frame_append, ih, List.flatMap_cons]

theorem events_one_line (h : OneLine m) : events (frame m) = [m] := by
  have hend : EndsLine '\n' := .inl rfl
  rw [events, frame_to_list, show ['\n', '\n'] = ['\n'] ++ ['\n'] from rfl, ← List.append_assoc, ← List.append_assoc,
    feed_append, List.append_assoc, feed_first h hend]
  simp [feed, take, endLine, message]

/-! ## Messages with line ends -/

theorem first_break (h : ¬ OneLine m) :
    ∃ first c rest, m.toList = first ++ c :: rest ∧ (∀ d ∈ first, ¬ EndsLine d) ∧ EndsLine c := by
  simp only [OneLine, not_forall, not_not] at h
  obtain ⟨d, hin, hd⟩ := h
  obtain ⟨c, hfind⟩ : ∃ c, m.toList.find? (EndsLine ·) = some c :=
    Option.isSome_iff_exists.mp (List.find?_isSome.mpr ⟨d, hin, decide_eq_true hd⟩)
  obtain ⟨hc, first, rest, hsplit, hfirst⟩ := List.find?_eq_some_iff_append.mp hfind
  exact ⟨first, c, rest, hsplit, by simpa using hfirst, of_decide_eq_true hc⟩

theorem events_broken {first rest : List Char} {c : Char} (hsplit : m.toList = first ++ c :: rest)
    (hfirst : ∀ d ∈ first, ¬ EndsLine d) (hc : EndsLine c) :
    events (frame m) = (feed ⟨[], [first], c = '\r'⟩ (rest ++ ['\n', '\n'])).2 := by
  have htext : (frame m).toList = "data: ".toList ++ (first ++ [c]) ++ (rest ++ ['\n', '\n']) := by
    simp [frame, hsplit]
  rw [events, htext, feed_append, feed_first hfirst hc, List.nil_append]

theorem events_frame_ne_nil (m : String) : events (frame m) ≠ [] := by
  by_cases hline : OneLine m
  · simp [events_one_line hline]
  obtain ⟨first, c, rest, hsplit, hfirst, hc⟩ := first_break hline
  have hsound : Sound ⟨[], [first], c = '\r'⟩ := fun _ => rfl
  have hleft := feed_blank (feed_sound rest hsound)
  have hkept := feed_keeps ⟨[], [first], c = '\r'⟩ (rest ++ ['\n', '\n']) (List.cons_ne_nil _ _)
  rw [events_broken hsplit hfirst hc]
  -- the first line waits in the reader, which the end of the frame leaves empty
  refine hkept.resolve_right fun hdata => hdata ?_
  rw [feed_append, hleft]

theorem broken_frame_bound (h : ¬ OneLine m) : totalLength (events (frame m)) < m.length := by
  obtain ⟨first, c, rest, hsplit, hfirst, hc⟩ := first_break h
  have hbound := feed_bound ⟨[], [first], c = '\r'⟩ (rest ++ ['\n', '\n'])
  have hfew : (rest ++ ['\n', '\n']).countP (¬ EndsLine ·) ≤ rest.length := by
    rw [List.countP_append]
    exact List.countP_le_length
  have hlength : m.length = first.length + rest.length + 1 := by
    rw [← String.length_toList, hsplit, List.length_append, List.length_cons, Nat.add_assoc]
  have hpending : pending ⟨[], [first], c = '\r'⟩ = first.length := by
    simp [pending, message, List.intercalate]
  rw [events_broken hsplit hfirst hc]
  omega

theorem frame_bound (m : String) : totalLength (events (frame m)) ≤ m.length := by
  by_cases hline : OneLine m
  · rw [events_one_line hline, total_length_singleton]
  · exact Nat.le_of_lt (broken_frame_bound hline)

/-- A message that breaks loses characters, which no other message makes up for. -/
theorem stream_bound (ms : List String) :
    totalLength (events (stream ms)) ≤ totalLength ms ∧
      (totalLength (events (stream ms)) = totalLength ms → ∀ m ∈ ms, OneLine m) := by
  induction ms with
  | nil => exact ⟨Nat.le_refl _, fun _ m hm => nomatch hm⟩
  | cons m ms ih =>
    obtain ⟨hle, hall⟩ := ih
    have hframe := frame_bound m
    have htold : totalLength (events (stream (m :: ms))) =
        totalLength (events (frame m)) + totalLength (events (stream ms)) := by
      rw [stream, events_frame_append, total_length_append]
    have hsent : totalLength (m :: ms) = m.length + totalLength ms := by
      rw [← total_length_singleton, ← total_length_append, List.singleton_append]
    refine ⟨by omega, fun hsame => List.forall_mem_cons.mpr ⟨?_, hall (by omega)⟩⟩
    by_contra hline
    have hless := broken_frame_bound hline
    omega

/-- A client reads every frame that the server writes as if it were alone, and is told something by each. It reads back
the messages that were sent if and only if each of them is on one line. -/
theorem events_stream (ms : List String) :
    frames ms = Bytes.ofText (stream ms) ∧ events (stream ms) = ms.flatMap (fun m => events (frame m)) ∧
      (∀ m ∈ ms, events (frame m) ≠ []) ∧ (events (stream ms) = ms ↔ ∀ m ∈ ms, OneLine m) := by
  have hapart := events_stream_each ms
  refine ⟨frames_eq_stream ms, hapart, fun m _ => events_frame_ne_nil m, fun hback => ?_, fun hlines => ?_⟩
  · exact (stream_bound ms).2 (congrArg totalLength hback)
  · rw [hapart]
    have hsingle : ∀ m ∈ ms, events (frame m) = [m] := fun m hm => events_one_line (hlines m hm)
    rw [List.flatMap_congr hsingle, List.flatMap_singleton']

example : events (stream ["css/app.css", "a\r\nb", "app.js"]) = ["css/app.css", "a", "app.js"] := by decide

/-- An output file can have a line end in its name. Its frame tells another path, or two. -/
theorem stream_breaks_lines :
    let m := (Memory.new.addFile ⟨"/out/a\nb"⟩ []).addFile ⟨"/out/a\n\ndata: b"⟩ []
    (m.isFile ⟨"/out/a\nb"⟩ = true ∧ FileSystem.relative? m ⟨"/out"⟩ ⟨"/out/a\nb"⟩ = some "a\nb" ∧
        events (stream ["a\nb"]) = ["a"]) ∧
      m.isFile ⟨"/out/a\n\ndata: b"⟩ = true ∧
        FileSystem.relative? m ⟨"/out"⟩ ⟨"/out/a\n\ndata: b"⟩ = some "a\n\ndata: b" ∧
        events (stream ["a\n\ndata: b"]) = ["a", "b"] := by
  decide +kernel

end Stream

end BundleWatch
