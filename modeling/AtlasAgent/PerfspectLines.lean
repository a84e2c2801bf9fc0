import AtlasAgent.Perfspect
import AtlasAgent.SpacedText
import Mathlib.Data.List.DropRight

/-!
# The lines of a PerfSpect session

One slot holds the line that a poll has extracted last, and a call of
GatherMetrics empties it. Over the life of a session whose stream does not
fail, what a call hands over is therefore the last of the data lines that have
been completed since the call before it, however the output comes in pieces.
-/

namespace AtlasAgent.PerfspectLines

open Perfspect RunHistory SpacedText TextFields

/-- What a session meets while its process keeps running and its stream does not fail. -/
def InSession : PerfspectEvent → Prop
  | .gatherMetrics _ => True
  | .output _ => True
  | .streamFails _ => False
  | .exit => False

/-- Whether an event is a call of GatherMetrics. -/
def isCall : PerfspectEvent → Bool
  | .gatherMetrics _ => true
  | _ => false

/-- What an event writes. -/
def writes : PerfspectEvent → Token
  | .output text => text
  | _ => []

/-- Everything the process has written. -/
def written (events : List PerfspectEvent) : Token := events.flatMap writes

/-- What it had written at the last call. -/
def seen (events : List PerfspectEvent) : Token :=
  written (events.rdropWhile fun event => !isCall event)

/-- The data lines that a text completes: all but the header. -/
def dataLines (text : Token) : List Token := (cutLines text).1.drop 1

/-- The data lines completed since the last call. -/
def newLines (events : List PerfspectEvent) : List Token :=
  (dataLines (written events)).drop (dataLines (seen events)).length

/-- The lines that are handed to ParsePerfspectLine. -/
def handed {F : Type} (outputs : List (PerfspectOutput F)) : List Token :=
  outputs.filterMap fun output =>
    match output with
    | .parse line => some line
    | _ => none

/-- A text cut in two pieces: what the first does not complete goes on in the second. -/
theorem cutLines_append (text more : Token) :
    cutLines (text++more)=((cutLines text).1++(cutLines ((cutLines text).2++more)).1,
      (cutLines ((cutLines text).2++more)).2) := by
  induction text with
  | nil => rfl
  | cons c text ih =>
    rw [List.cons_append,cutLines,ih,cutLines]
    by_cases hc : c= '\n'
    · rw [if_pos hc,if_pos hc]
      rfl
    · rw [if_neg hc,if_neg hc]
      cases hlines : (cutLines text).1 with
      | nil =>
        dsimp only
        rw [List.nil_append,List.nil_append,List.cons_append,cutLines,if_neg hc]
      | cons line lines => rfl

/-- Whole lines are cut into themselves. -/
theorem cutLines_unlines {lines : List Token} (h : ∀ line∈lines,'\n' ∉ line) :
    cutLines (unlines lines)=(lines,[]) := by
  have hline : ∀ line : Token,'\n' ∉ line → cutLines (line++['\n'])=([line],[]) := by
    intro line hline
    induction line with
    | nil => rfl
    | cons c line ih =>
      rw [List.mem_cons,not_or] at hline
      rw [List.cons_append,cutLines,if_neg (Ne.symm hline.1),ih hline.2]
  induction lines with
  | nil => rfl
  | cons line lines ih =>
    obtain ⟨hfirst,hrest⟩ := List.forall_mem_cons.mp h
    have hshape : unlines (line::lines)=line++['\n']++unlines lines := by simp [unlines]
    rw [hshape,cutLines_append,hline line hfirst]
    dsimp only
    rw [List.nil_append,ih hrest]
    rfl

/-- A text that has been written of whole lines completes the first of them. -/
theorem dataLines_begin {text header : Token} {lines : List Token}
    (h : ∀ line∈header::lines,'\n' ∉ line) (htext : text <+: unlines (header::lines)) :
    dataLines text <+: lines := by
  obtain ⟨more,hmore⟩ := htext
  have hcut := congrArg Prod.fst (cutLines_append text more)
  rw [hmore,cutLines_unlines h] at hcut
  rw [dataLines]
  cases hlines : (cutLines text).1 with
  | nil => exact List.nil_prefix
  | cons first rest =>
    rw [hlines] at hcut
    exact ⟨_,(List.cons.inj hcut).2.symm⟩

/-- After the header every line takes the slot. -/
theorem foldl_extractLine_data {s : PerfspectState} (hfirst : s.firstIteration=false)
    (herror : s.lastAsyncError=none) (lines : List Token) :
    lines.foldl extractLine s={ s with pendingLine := lines.getLast?.getD s.pendingLine } := by
  induction lines using List.reverseRecOn with
  | nil => rfl
  | append_singleton lines line ih =>
    rw [List.foldl_append,ih,List.foldl_cons,List.foldl_nil,extractLine,if_neg (by simp [hfirst]),
      List.getLast?_concat,Option.getD_some,←herror]

/-- The first line of a session is not kept. -/
theorem foldl_extractLine {s : PerfspectState} (herror : s.lastAsyncError=none)
    (lines : List Token) :
    lines.foldl extractLine s=
      { s with
        firstIteration := s.firstIteration && lines.isEmpty
        pendingLine := (if s.firstIteration=true then lines.drop 1
          else lines).getLast?.getD s.pendingLine } := by
  obtain ⟨firstIteration,session,pendingLine,lastAsyncError⟩ := s
  obtain rfl : lastAsyncError=none := herror
  cases firstIteration with
  | false => exact foldl_extractLine_data rfl rfl lines
  | true =>
    cases lines with
    | nil => rfl
    | cons header lines =>
      rw [List.foldl_cons]
      exact foldl_extractLine_data rfl rfl lines

/-- The state of a session after its events: the slot is empty, what the last
call has not extracted is unread, and the header has been skipped as soon as
that call had a complete line. -/
structure Tracks (s : PerfspectState) (events : List PerfspectEvent) : Prop where
  session : ∃ more,written events=seen events++more ∧
    s.session=some ⟨false,(cutLines (seen events)).2++more,none,true⟩
  first : s.firstIteration=(cutLines (seen events)).1.isEmpty
  empty : s.pendingLine=[]
  noError : s.lastAsyncError=none

/-- A poll puts the last of the new lines into the slot. -/
theorem poll_tracks {s : PerfspectState} {events : List PerfspectEvent} (h : Tracks s events) :
    poll s=⟨(cutLines (written events)).1.isEmpty,
      some ⟨false,(cutLines (written events)).2,none,true⟩,(newLines events).getLast?.getD [],
      none⟩ := by
  obtain ⟨more,hwritten,hsession⟩ := h.session
  have hnew : newLines events=
      if s.firstIteration=true then (cutLines ((cutLines (seen events)).2++more)).1.drop 1
      else (cutLines ((cutLines (seen events)).2++more)).1 := by
    rw [newLines,dataLines,dataLines,hwritten,cutLines_append,h.first]
    dsimp only
    cases (cutLines (seen events)).1 with
    | nil => rfl
    | cons header lines => simp
  have hempty : ((cutLines (seen events)).1++
      (cutLines ((cutLines (seen events)).2++more)).1).isEmpty=
      ((cutLines (seen events)).1.isEmpty &&
        (cutLines ((cutLines (seen events)).2++more)).1.isEmpty) := by
    cases (cutLines (seen events)).1 <;> rfl
  rw [poll,hsession]
  dsimp only
  rw [if_pos rfl,foldl_extractLine h.noError,←hnew,h.empty,h.noError,h.first,hwritten,
    cutLines_append (seen events) more]
  dsimp only
  rw [hempty]

section Run

variable {F : Type} [Mul F] [NatCast F] (fromCharsFloat : Token → Option F)

theorem seen_concat_call {events : List PerfspectEvent} (start : StartOutcome) :
    seen (events++[.gatherMetrics start])=written events := by
  rw [seen,List.rdropWhile_concat_neg _ _ _ (by simp [isCall]),written,List.flatMap_append]
  exact List.append_nil _

theorem seen_concat_output {events : List PerfspectEvent} (text : Token) :
    seen (events++[.output text])=seen events := by
  rw [seen,List.rdropWhile_concat_pos _ _ _ (by simp [isCall]),seen]

theorem written_concat (events : List PerfspectEvent) (event : PerfspectEvent) :
    written (events++[event])=written events++writes event := by
  rw [written,List.flatMap_append,List.flatMap_singleton,written]

/-- A call hands over the last of the new lines and leaves the slot empty. -/
theorem gatherMetrics_tracks {s : PerfspectState} {events : List PerfspectEvent}
    (h : Tracks s events) (hnonempty : ∀ line∈newLines events,line≠[]) (start : StartOutcome) :
    Tracks (gatherMetrics fromCharsFloat s start).1 (events++[.gatherMetrics start]) ∧
      handed (gatherMetrics fromCharsFloat s start).2.2=(newLines events).getLast?.toList ∧
      .startScript∉(gatherMetrics fromCharsFloat s start).2.2 := by
  obtain ⟨more,-,hsession⟩ := h.session
  have hrunning : running s=true := by rw [running,hsession]; rfl
  have hpoll := poll_tracks h
  have hafter : Tracks ⟨(cutLines (written events)).1.isEmpty,
      some ⟨false,(cutLines (written events)).2,none,true⟩,[],none⟩
      (events++[.gatherMetrics start]) := by
    refine ⟨⟨[],?_,?_⟩,?_,rfl,rfl⟩
    · rw [written_concat,seen_concat_call]
      rfl
    · rw [seen_concat_call,List.append_nil]
    · rw [seen_concat_call]
  rw [gatherMetrics,if_pos hrunning]
  cases hlast : (newLines events).getLast? with
  | none =>
    have hread : readOutput s=(⟨(cutLines (written events)).1.isEmpty,
        some ⟨false,(cutLines (written events)).2,none,true⟩,[],none⟩,⟨none,none⟩) := by
      rw [readOutput,hpoll,hlast]
      rfl
    rw [gatherRunning,hread]
    exact ⟨hafter,rfl,by simp⟩
  | some line =>
    have hline : line≠[] := hnonempty line (List.mem_of_getLast? hlast)
    have hread : readOutput s=(⟨(cutLines (written events)).1.isEmpty,
        some ⟨false,(cutLines (written events)).2,none,true⟩,[],none⟩,⟨some line,none⟩) := by
      rw [readOutput,hpoll,hlast]
      exact if_neg (by simp [hline])
    rw [gatherRunning,hread]
    dsimp only
    cases parsePerfspectLine fromCharsFloat line with
    | none => exact ⟨hafter,rfl,by simp⟩
    | some data => exact ⟨hafter,rfl,by simp [sendMetrics]⟩

/-- Output waits for the next call. -/
theorem output_tracks {s : PerfspectState} {events : List PerfspectEvent} (h : Tracks s events)
    (text : Token) :
    Tracks (perfspectStep fromCharsFloat s (.output text)).1 (events++[.output text]) := by
  obtain ⟨more,hwritten,hsession⟩ := h.session
  refine ⟨⟨more++text,?_,?_⟩,?_,h.empty,h.noError⟩
  · rw [written_concat,seen_concat_output,hwritten,List.append_assoc]
    rfl
  · rw [seen_concat_output,←List.append_assoc]
    dsimp only [perfspectStep,onSession]
    rw [hsession]
    rfl
  · rw [seen_concat_output]
    exact h.first

/-- More text completes the same lines and perhaps others. -/
theorem dataLines_append (text more : Token) :
    dataLines text <+: dataLines (text++more) := by
  rw [dataLines,dataLines,cutLines_append]
  cases (cutLines text).1 with
  | nil => exact List.nil_prefix
  | cons header lines => exact List.prefix_append lines _

/-- The new lines are those that the last call could not see. -/
theorem dataLines_seen_append_newLines {s : PerfspectState} {events : List PerfspectEvent}
    (h : Tracks s events) :
    dataLines (seen events)++newLines events=dataLines (written events) := by
  obtain ⟨more,hwritten,-⟩ := h.session
  have hbegins := dataLines_append (seen events) more
  rw [←hwritten] at hbegins
  exact (List.prefix_iff_eq_append.mp hbegins)

/-- Through a run every call hands over the last of its new lines, and so all of
them together hand over some of the data lines, in order. -/
theorem tracks_run {s : PerfspectState} (h : Tracks s []) {events : List PerfspectEvent}
    (hevents : ∀ event∈events,InSession event)
    (hnonempty : ∀ line∈dataLines (written events),line≠[]) :
    Tracks (runState (perfspectStep fromCharsFloat) s events) events ∧
      (handed (runOutput (perfspectStep fromCharsFloat) s events)).Sublist
        (dataLines (seen events)) ∧
      .startScript∉runOutput (perfspectStep fromCharsFloat) s events := by
  induction events using List.reverseRecOn with
  | nil => exact ⟨h,List.Sublist.refl [],List.not_mem_nil⟩
  | append_singleton events event ih =>
    have hbegins := dataLines_append (written events) (writes event)
    rw [←written_concat] at hbegins
    have hbefore : ∀ line∈dataLines (written events),line≠[] := fun line hline =>
      hnonempty line (hbegins.mem hline)
    obtain ⟨htracks,hhanded,hstart⟩ :=
      ih (fun other hother => hevents other (List.mem_append_left _ hother)) hbefore
    rw [runState_concat,runOutput_concat]
    cases event with
    | gatherMetrics start =>
      have hnew : ∀ line∈newLines events,line≠[] := fun line hline =>
        hbefore line (List.mem_of_mem_drop hline)
      obtain ⟨hafter,hline,hnone⟩ := gatherMetrics_tracks fromCharsFloat htracks hnew start
      have hlast : (newLines events).getLast?.toList.Sublist (newLines events) := by
        cases hget : (newLines events).getLast? with
        | none => exact List.nil_sublist _
        | some line => exact List.singleton_sublist.mpr (List.mem_of_getLast? hget)
      rw [←hline] at hlast
      refine ⟨hafter,?_,?_⟩
      · rw [seen_concat_call,←dataLines_seen_append_newLines htracks,handed,List.filterMap_append]
        exact hhanded.append hlast
      · rw [List.mem_append,not_or]
        exact ⟨hstart,hnone⟩
    | output text =>
      refine ⟨output_tracks fromCharsFloat htracks text,?_,?_⟩
      · rw [seen_concat_output,outputAfter,perfspectStep,List.append_nil]
        exact hhanded
      · rw [outputAfter,perfspectStep,List.append_nil]
        exact hstart
    | streamFails error => exact False.elim (hevents (.streamFails error) (by simp))
    | exit => exact False.elim (hevents .exit (by simp))

/-- A cleanup that succeeds has reset the members. -/
theorem cleanupProcess_succeeds {s : PerfspectState} {termination : Termination}
    (h : (cleanupProcess s termination).2=true) :
    (cleanupProcess s termination).1=resetMembers s := by
  rw [cleanupProcess] at h ⊢
  cases hsession : s.session with
  | none => rfl
  | some session =>
    rw [hsession] at h
    dsimp only at h ⊢
    by_cases hexited : session.exited=true
    · rw [if_pos hexited]
    · rw [if_neg hexited] at h ⊢
      cases termination with
      | terminated => rfl
      | terminateFails => cases h
      | waitFails => cases h

/-- A session begins with nothing written. -/
theorem tracks_startScript {s : PerfspectState} {start : StartOutcome}
    (hstart : (startScript s start).2=true) (hclean : s.lastAsyncError=none) :
    Tracks (startScript s start).1 [] := by
  rw [startScript] at hstart ⊢
  dsimp only at hstart ⊢
  split at hstart
  · next hdone =>
    split at hstart
    · next hcreated =>
      rw [if_pos hdone,if_pos hcreated,cleanupProcess_succeeds hdone]
      exact ⟨⟨[],rfl,rfl⟩,rfl,rfl,hclean⟩
    · cases hstart
  · next hfailed => exact absurd hstart hfailed

/-- Over a session that begins without a recorded error, GatherMetrics hands
over data lines of the output only, whole, in their order and none twice, and
does not start another process. A call hands over the last of the data lines
completed since the call before it; if there is one at most, nothing is lost. -/
theorem gatherMetrics_hands_over {s : PerfspectState} {start : StartOutcome}
    (hstart : (startScript s start).2=true) (hclean : s.lastAsyncError=none)
    (header : Token) (lines : List Token) (hheader : '\n' ∉ header)
    (hlines : ∀ line∈lines,line≠[] ∧ '\n' ∉ line) {events : List PerfspectEvent}
    (hevents : ∀ event∈events,InSession event)
    (hwritten : written events <+: unlines (header::lines)) :
    let started := (startScript s start).1
    let step := perfspectStep fromCharsFloat
    (handed (runOutput step started events)).Sublist (dataLines (written events)) ∧
    dataLines (written events) <+: lines ∧
    .startScript∉runOutput step started events ∧
    ∀ before call after,events=before++.gatherMetrics call::after →
      handed (outputAfter step started before (.gatherMetrics call))=
        (newLines before).getLast?.toList ∧
      ((newLines before).length ≤ 1 →
        handed (outputAfter step started before (.gatherMetrics call))=newLines before) := by
  intro started step
  have hbegins : dataLines (written events) <+: lines :=
    dataLines_begin (List.forall_mem_cons.mpr ⟨hheader,fun line hline => (hlines line hline).2⟩)
      hwritten
  have hnonempty : ∀ line∈dataLines (written events),line≠[] := fun line hline =>
    (hlines line (hbegins.mem hline)).1
  have htracks := tracks_startScript hstart hclean
  obtain ⟨hend,hhanded,hnone⟩ := tracks_run fromCharsFloat htracks hevents hnonempty
  have hseen : (dataLines (seen events)).Sublist (dataLines (written events)) := by
    rw [←dataLines_seen_append_newLines hend]
    exact List.sublist_append_left _ _
  refine ⟨hhanded.trans hseen,hbegins,hnone,fun before call after hsplit => ?_⟩
  have hearlier : ∀ line∈dataLines (written before),line≠[] := by
    intro line hline
    refine hnonempty line ?_
    rw [hsplit,written,List.flatMap_append]
    exact (dataLines_append _ _).mem hline
  have hbefore := (tracks_run fromCharsFloat htracks
    (fun event hevent => hevents event (hsplit ▸ List.mem_append_left _ hevent)) hearlier).1
  have hcall := (gatherMetrics_tracks fromCharsFloat hbefore
    (fun line hline => hearlier line (List.mem_of_mem_drop hline)) call).2.1
  refine ⟨hcall,fun hone => hcall.trans ?_⟩
  match newLines before,hone with
  | [],_ => rfl
  | [line],_ => rfl

end Run

/-- A process is created. -/
def createdProcess : StartOutcome := ⟨.terminated,true⟩

/-- The header comes with the first data line, the second one in two pieces. -/
def twoLines : List PerfspectEvent :=
  [.output "h\na\n".toList,.gatherMetrics createdProcess,.output "b".toList,.output "\n".toList]

theorem gatherMetrics_hands_over_two_lines :
    handed (outputAfter (perfspectStep (F:=ℚ) fun _ => none) (startScript .init createdProcess).1
      twoLines (.gatherMetrics createdProcess))=["b".toList] := by
  have hnew : newLines twoLines=["b".toList] := by decide
  have hevents : ∀ event∈twoLines++[.gatherMetrics createdProcess],InSession event := by
    simp [twoLines,InSession]
  have hstart : (startScript .init createdProcess).2=true := rfl
  have h := gatherMetrics_hands_over (F:=ℚ) (fun _ => none) hstart rfl "h".toList
    ["a".toList,"b".toList] (by decide) (by decide) hevents ⟨[],by decide⟩
  rw [←hnew]
  exact (h.2.2.2 twoLines createdProcess [] rfl).2 (by decide)

end AtlasAgent.PerfspectLines
