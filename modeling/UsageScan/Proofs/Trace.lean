import Mathlib.Data.List.Induction
import UsageScan.Proofs.Outlet
import UsageScan.Run
import UsageScan.Trace
/-!
# Traces of runs

A run can be told to a sink while it goes on: the sink hears of each token as it is handed out, then
of each warning that came with it, and when the scan has ended of the warnings that are left. Nothing
of this goes back to the run. If the sink is a trace, each event that is shown is written as a line,
piece by piece. What has been written at any time is what fits of the lines up to there, wherever the
end of what fits falls: within a label, within a character, or between two lines. Behind a failure
nothing more is written.

## Main definitions

* `Run.tellInto`, `Run.into` — a run that is told to a sink
* `Trace.Writing` — how the lines of a trace are written
* `TraceSink.put` — writing an event piece by piece
* `Run.traced` — a run that is told to a trace
* `Tracing` — what is written of a run, and how its trace ends

## Main results

* `Run.into_eq` — telling a run to a sink tells the sink the events of the run
* `TraceSink.handleAll_start` — a trace is written as if its text was written at once
* `tracing_run` — what is written of any run
-/

set_option autoImplicit false

namespace UsageScan

/-! ### Telling a run to a sink -/

namespace Run

variable {σ : Type} (handle : σ → Event → σ)

/-- Tells all tokens that are left, each with the warnings that are not among the first `told` ones.
Returned are the sink, how many warnings have been told then, and the scanner that has no token
left. -/
def tellInto (told : Nat) (s : Scanner) (sink : σ) : σ × Nat × Scanner :=
  match _h : s.next with
  | (none, s') => (sink, told, s')
  | (some token, s') =>
    let heard := handle sink (.token token)
    let warnings := s'.findings.log.since told
    tellInto s'.findings.log.size s' (warnings.foldl (fun sink w => handle sink (.warning w)) heard)
termination_by s.cursor.rest.length
decreasing_by exact Scanner.length_next_lt _h

/-- Scans a source and tells what happens to a sink. Returned are the sink and what remains of the
run. -/
def into (sink : σ) (source : String) (options : Options) : σ × ScanResult :=
  let (sink, told, s) := tellInto handle 0 (Scanner.ofSource source options) sink
  let result := s.finish.withUnused
  ((result.log.since told).foldl (fun sink w => handle sink (.warning w)) sink, result)

/-- A sink is told what would be gathered as events. -/
theorem tellInto_eq (told : Nat) (s : Scanner) (events : Array Event) (sink : σ) :
    tellInto handle told s (events.toList.foldl handle sink) =
      ((tellFrom told s events).1.toList.foldl handle sink, (tellFrom told s events).2) := by
  induction told, s, events using tellFrom.induct with
  | case1 told s events s' hnext =>
    rw [tellInto, tellFrom, hnext]
  | case2 told s events token s' hnext ih =>
    have hheard : (events ++ (s'.step told token).events).toList.foldl handle sink =
        (s'.findings.log.since told).foldl (fun sink w => handle sink (.warning w))
          (handle (events.toList.foldl handle sink) (.token token)) := by
      rw [Array.toList_appendList, List.foldl_append, ScanStep.events, List.foldl_cons,
        List.foldl_map]
      rfl
    rw [tellInto, tellFrom, hnext]
    dsimp only
    rw [← hheard]
    exact ih

/-- A sink is told the events of the run, and it has no influence on what remains of the run. -/
theorem into_eq (sink : σ) (source : String) (options : Options) :
    into handle sink source options =
      ((ofSource source options).events.foldl handle sink, (ofSource source options).result) := by
  have htell := tellInto_eq handle 0 (Scanner.ofSource source options) #[] sink
  rw [Array.foldl_toList, Array.foldl_empty] at htell
  rw [into, ofSource, htell]
  dsimp only
  rw [List.foldl_append, List.foldl_map]

end Run

/-! ### The text of a trace -/

namespace Trace

/-- How the lines of a trace are written: the pieces of each line, and how the outlet splits what it
is offered. -/
structure Writing where
  pieces : Event → List String
  splitting : Outlet.Splitting
  join_pieces (e : Event) : String.join (pieces e) = line e

/-- A label, the text behind it and the end of the line are pieces of their own, and the outlet takes
all that fits. -/
def Writing.formatted : Writing where
  pieces
    | .token t => ["[", t.kind.label, "] ", t.text, "\n"]
    | .warning w => ["[WARNING] ", w.message, "\n"]
  splitting := .greedy
  join_pieces e := by
    cases e <;>
      simp only [String.join_cons, String.join_nil, String.append_empty, line, Event.render,
        Token.render, Warning.render, String.append_assoc]

variable (tokens : Bool) (events : List Event) (e : Event)

@[simp] theorem text_nil : text tokens [] = "" := rfl

/-- An event that is shown adds its line behind the text of those before it. -/
theorem text_concat_of_shows (h : shows tokens e = true) :
    text tokens (events ++ [e]) = text tokens events ++ line e := by
  rw [text, List.filter_append, List.filter_cons_of_pos h, List.filter_nil, List.map_append,
    List.map_singleton, List.foldl_append]
  rfl

/-- An event that is not shown adds nothing. -/
theorem text_concat_of_not_shows (h : shows tokens e = false) :
    text tokens (events ++ [e]) = text tokens events := by
  have hnone : [e].filter (shows tokens) = [] := by
    rw [List.filter_cons_of_neg (by simp [h]), List.filter_nil]
  rw [text, List.filter_append, hnone, List.append_nil, text]

/-- With tokens a trace has a line for every event. -/
theorem text_true : text true events = String.join (events.map line) := by
  have hall : events.filter (shows true) = events := by
    rw [List.filter_eq_self]
    intro e _
    exact Bool.or_true _
  rw [text, hall]
  rfl

/-- Without tokens the events that are shown are the warnings. -/
theorem filter_shows_false :
    events.filter (shows false) = (events.filterMap Event.warning?).map .warning := by
  induction events with
  | nil => rfl
  | cons e events ih =>
    cases e with
    | token t =>
      have hhidden : shows false (.token t) = false := rfl
      have hnone : (Event.token t).warning? = none := rfl
      rw [List.filter_cons_of_neg (by simp [hhidden]), List.filterMap_cons_none hnone, ih]
    | warning w =>
      have hsome : (Event.warning w).warning? = some w := rfl
      rw [List.filter_cons_of_pos rfl, List.filterMap_cons_some hsome, ih, List.map_cons]

/-- Without tokens a trace has a line for every warning. -/
theorem text_false : text false events =
    String.join ((events.filterMap Event.warning?).map fun w => line (.warning w)) := by
  rw [text, filter_shows_false, List.map_map]
  rfl

end Trace

/-! ### Writing events -/

namespace TraceSink

/-- Writes an event piece by piece, if it is shown and nothing has failed yet. -/
def put (w : Trace.Writing) (s : TraceSink) (e : Event) : TraceSink :=
  if Trace.shows s.tokens e && s.fault.isNone then
    let (fault, outlet) := Outlet.writePieces w.splitting s.outlet (w.pieces e)
    { s with outlet, fault }
  else s

/-- It does not matter how the line of an event is written. -/
theorem put_eq_handle (w : Trace.Writing) : put w = handle := by
  funext s e
  rw [put, handle, Outlet.writePieces_eq_write, w.join_pieces]

/-- Behind a failure nothing is written. -/
theorem handleAll_of_fault {s : TraceSink} (h : s.fault.isSome) (events : List Event) :
    s.handleAll events = s := by
  induction events with
  | nil => rfl
  | cons e events ih =>
    have hstays : s.handle e = s := by
      rw [handle, Option.isNone_eq_false_iff.mpr h, Bool.and_false]
      rfl
    rw [handleAll, List.foldl_cons, hstays]
    exact ih

/-- A trace to which nothing but the given bytes has been written. -/
def holding (outlet : Outlet) (tokens : Bool) (bytes : ByteArray) : TraceSink :=
  ⟨(outlet.write bytes).2, tokens, (outlet.write bytes).1⟩

/-- One event adds its line to the text. -/
theorem handle_holding (outlet : Outlet) (tokens : Bool) (events : List Event) (e : Event) :
    (holding outlet tokens (Trace.text tokens events).toUTF8).handle e =
      holding outlet tokens (Trace.text tokens (events ++ [e])).toUTF8 := by
  cases hshows : Trace.shows tokens e with
  | false =>
    rw [Trace.text_concat_of_not_shows _ _ _ hshows, handle]
    simp only [holding, hshows, Bool.false_and, Bool.false_eq_true, if_false]
  | true =>
    -- The line is written behind the text, or the writing of the text has failed already.
    have htext : (Trace.text tokens (events ++ [e])).toUTF8 =
        (Trace.text tokens events).toUTF8 ++ (Trace.line e).toUTF8 := by
      rw [Trace.text_concat_of_shows _ _ _ hshows]
      exact String.toByteArray_append
    rw [htext, handle]
    cases hwrite : outlet.write (Trace.text tokens events).toUTF8 with
    | mk fault o' =>
      cases fault with
      | none =>
        have happend := Outlet.write_append_of_none (Trace.line e).toUTF8 hwrite
        simp only [holding, hwrite, happend, hshows, Option.isNone_none, Bool.and_true, if_true]
      | some fault =>
        have happend := Outlet.write_append_of_some (Trace.line e).toUTF8 hwrite
        simp only [holding, hwrite, happend, Option.isNone_some, Bool.and_false,
          Bool.false_eq_true, if_false]

/-- A trace is written as if all of its text was written at once. -/
theorem handleAll_start (outlet : Outlet) (tokens : Bool) (events : List Event) :
    (start outlet tokens).handleAll events =
      holding outlet tokens (Trace.text tokens events).toUTF8 := by
  -- The next event comes at the end, behind the text of all before it.
  induction events using List.reverseRecOn with
  | nil =>
    have hnothing := Outlet.writePieces_eq_write .greedy outlet []
    rw [holding, handleAll, List.foldl_nil, Trace.text_nil, start]
    exact congrArg (fun p => (⟨p.2, tokens, p.1⟩ : TraceSink)) hnothing
  | append_singleton events e ih =>
    rw [← handle_holding, ← ih, handleAll, handleAll, List.foldl_append]
    rfl

end TraceSink

/-! ### Traces of runs -/

/-- A run that is told to a trace. In its outlet fit `room` bytes. -/
def Run.traced (w : Trace.Writing) (tokens : Bool) (room : Nat) (flushes : Bool) (source : String)
    (options : Options) : TraceSink × ScanResult :=
  into (TraceSink.put w) (.start (.start (some room) flushes) tokens) source options

/-- The bytes of the whole trace of a run. -/
def Run.traceBytes (tokens : Bool) (source : String) (options : Options) : ByteArray :=
  (Trace.text tokens (ofSource source options).events).toUTF8

/-- What is written of a run to an outlet in which `room` bytes fit, and how its trace ends. -/
structure Tracing (w : Trace.Writing) (tokens : Bool) (room : Nat) (flushes : Bool)
    (source : String) (options : Options) : Prop where
  /-- With tokens, the whole trace has a line for every event of the run. -/
  with_tokens : tokens = true → Run.traceBytes tokens source options =
    (String.join ((Run.ofSource source options).events.map Trace.line)).toUTF8
  /-- Without tokens, it has a line for every warning among the events. -/
  without_tokens : tokens = false → Run.traceBytes tokens source options =
    (String.join (((Run.ofSource source options).events.filterMap Event.warning?).map
      fun w => Trace.line (.warning w))).toUTF8
  /-- Written is the beginning of the whole trace. -/
  written : (Run.traced w tokens room flushes source options).1.outlet.written =
    (Run.traceBytes tokens source options).extract 0 room
  /-- Written is as much of it as fits. -/
  size_written : (Run.traced w tokens room flushes source options).1.outlet.written.size =
    min room (Run.traceBytes tokens source options).size
  /-- The trace ends with the failed write if not all of it fits, even if it could not be passed on
  either. If all of it fits, the trace ends with the failure to pass it on, or without one. -/
  finish : (Run.traced w tokens room flushes source options).1.finish =
    if room < (Run.traceBytes tokens source options).size then some .closed
    else if flushes then none else some .flushFailed
  /-- Behind an event at which writing failed, the trace stays as it is to the end. -/
  stopped : ∀ heard unheard, (Run.ofSource source options).events = heard ++ unheard →
    (heard.foldl (TraceSink.put w) (.start (.start (some room) flushes) tokens)).fault.isSome →
      heard.foldl (TraceSink.put w) (.start (.start (some room) flushes) tokens) =
        (Run.traced w tokens room flushes source options).1
  /-- What remains of the run does not depend on what becomes of the trace. -/
  result : (Run.traced w tokens room flushes source options).2 =
    (Run.ofSource source options).result

section Traced

variable (w : Trace.Writing) (tokens : Bool) (room : Nat) (flushes : Bool) (source : String)
  (options : Options)

/-- A run that is told to a trace leaves its outlet as if the whole trace was written at once. -/
theorem Run.fst_into_put (outlet : Outlet) :
    (into (TraceSink.put w) (.start outlet tokens) source options).1 =
      .holding outlet tokens (traceBytes tokens source options) := by
  rw [into_eq, TraceSink.put_eq_handle]
  exact TraceSink.handleAll_start ..

theorem Run.fst_traced : (traced w tokens room flushes source options).1 =
    .holding (.start (some room) flushes) tokens (traceBytes tokens source options) :=
  fst_into_put w tokens source options _

/-- A trace ends with the failed write if not all of it fits, and else as its outlet is passed on. -/
theorem TraceSink.finish_holding (bytes : ByteArray) :
    (holding (.start (some room) flushes) tokens bytes).finish =
      if room < bytes.size then some .closed else if flushes then none else some .flushFailed := by
  have hfault := Outlet.fault_write (o := .start (some room) flushes) (n := room) rfl bytes
  rw [finish, holding, hfault]
  by_cases hfits : bytes.size ≤ room
  · rw [if_pos hfits, if_neg (Nat.not_lt.mpr hfits)]
    dsimp only
    rw [Outlet.flush, Outlet.flushes_write]
    rfl
  · rw [if_neg hfits, if_pos (Nat.not_le.mp hfits)]

/-- What is written of any run. -/
theorem tracing_run : Tracing w tokens room flushes source options where
  with_tokens htokens := by
    rw [Run.traceBytes, htokens, Trace.text_true]
  without_tokens htokens := by
    rw [Run.traceBytes, htokens, Trace.text_false]
  written := by
    rw [Run.fst_traced, TraceSink.holding, Outlet.written_write (n := room) rfl]
    exact ByteArray.empty_append
  size_written := by
    rw [Run.fst_traced, TraceSink.holding, Outlet.written_write (n := room) rfl,
      ByteArray.size_append, ByteArray.size_extract]
    exact (Nat.zero_add _).trans (Nat.sub_zero _)
  finish := by
    rw [Run.fst_traced, TraceSink.finish_holding]
  stopped heard unheard hevents hfault := by
    have hstays := TraceSink.handleAll_of_fault (TraceSink.put_eq_handle w ▸ hfault) unheard
    rw [Run.traced, Run.into_eq, hevents, List.foldl_append, TraceSink.put_eq_handle]
    exact hstays.symm
  result := by
    rw [Run.traced, Run.into_eq]

end Traced

/-- The outlet is full between the two bytes of a character. -/
theorem tracing_run_formatted :
    let traced := Run.traced .formatted true 14 false "é" .default
    Tracing .formatted true 14 false "é" .default ∧
      traced.1.outlet.written = "[IDENTIFIER] ".toUTF8.push 0xC3 ∧
      traced.1.finish = some .closed ∧ traced.2.log.toList = [.undeclared "é"] := by
  intro traced
  have htracing := tracing_run .formatted true 14 false "é" .default
  refine ⟨htracing, htracing.written.trans ?_, htracing.finish.trans ?_, ?_⟩
  · decide +kernel
  · decide +kernel
  · rw [htracing.result]
    decide +kernel

end UsageScan
