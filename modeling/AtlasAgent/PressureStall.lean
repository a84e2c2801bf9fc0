import AtlasAgent.Effects
import AtlasAgent.ProcCpu
import AtlasAgent.SpacedText
import Mathlib.Data.Rat.Cast.Defs

/-!
# The pressure stall collectors

PressureStall::collect reads the pressure of the host and CGroup::PressureStall
that of a container. Both take the fifth field of a line without asking whether
there is one, and its text from the seventh character on; neither may throw, so
that a line without such a field ends the agent. Numbers that become doubles
are exact.
-/

namespace AtlasAgent.PressureStall

open DecimalText Effects NumberText ProcCpu SpacedText TextFields

/-- The two lines of a pressure file. -/
inductive StallKind
  /-- sys.pressure.some. -/
  | some
  /-- sys.pressure.full. -/
  | full
  deriving DecidableEq

/-- A monotonic counter that is set. -/
structure StallSet where
  kind : StallKind
  id : Token
  seconds : ℚ
  deriving DecidableEq

/-- What ends a collector. -/
inductive StallFault
  /-- A field that the line does not have is read. -/
  | noField
  /-- std::string::substr throws out of a function that may not throw. -/
  | outOfRange
  deriving DecidableEq

/-- A collector. -/
abbrev StallProgram := Program Unit StallSet StallFault

/-- MICROS. -/
def micros : ℚ := 1000000

/-- strtoul of the fifth field behind its first six characters. -/
def usecs (fields : List Token) : StallProgram ℕ :=
  match fields[4]? with
  | none => fail .noField
  | some field => if field.length<6 then fail .outOfRange else pure (strtoul (field.drop 6))

/-- One counter from a line. -/
def setStall (kind : StallKind) (id : Token) (line : List Token) : StallProgram Unit := do
  let value ← usecs line
  emit ⟨kind,id,value/micros⟩

/-- What is done with one file; the second line is not always wanted. -/
def fileStall (wantsFull : Bool) (id : Token) (file : Option Token) : StallProgram Unit :=
  match readLinesFields file with
  | [first,second] => do
    setStall .some id first
    if wantsFull then setStall .full id second else pure ()
  | _ => pure ()

/-- The files of a directory with pressures. -/
structure PressureFiles where
  cpu : Option Token
  io : Option Token
  memory : Option Token

/-- PressureStall::collect on a directory, if there is one. -/
def collect : Option PressureFiles → StallProgram Unit
  | none => pure ()
  | some files => do
    fileStall false "cpu".toList files.cpu
    fileStall true "io".toList files.io
    fileStall true "memory".toList files.memory

/-- CGroup::PressureStall. -/
def cgroupPressureStall (files : PressureFiles) : StallProgram Unit := do
  fileStall true "cpu".toList files.cpu
  fileStall true "io".toList files.io
  fileStall true "memory".toList files.memory

/-- A line with a fifth field of six characters or more. -/
def HasTotal (fields : List Token) : Prop := ∃ field,fields[4]?=some field ∧ 6 ≤ field.length

/-- Where a file has two lines, those that are wanted have a total. -/
def HasTotals (wantsFull : Bool) (file : Option Token) : Prop :=
  ∀ first second,readLinesFields file=[first,second] →
    HasTotal first ∧ (wantsFull=true → HasTotal second)

/-- The seconds of a line. -/
def seconds (fields : List Token) : ℚ := strtoul ((fields.getD 4 []).drop 6)/micros

/-- What is published of a file. -/
def published (wantsFull : Bool) (id : Token) (file : Option Token) : List StallSet :=
  match readLinesFields file with
  | [first,second] =>
    ⟨.some,id,seconds first⟩::(if wantsFull then [⟨.full,id,seconds second⟩] else [])
  | _ => []

section Files

/-- A counter is set exactly when its line has a total. -/
theorem setStall_cases (kind : StallKind) (id : Token) (fields : List Token) :
    HasTotal fields ∧ setStall kind id fields ()=⟨(),[⟨kind,id,seconds fields⟩],.ok ()⟩ ∨
      ¬HasTotal fields ∧ ∃ fault,setStall kind id fields ()=⟨(),[],.error fault⟩ := by
  rw [setStall,bind_apply,usecs,HasTotal,seconds,List.getD_eq_getElem?_getD]
  cases fields[4]? with
  | none => exact .inr ⟨by simp,.noField,rfl⟩
  | some field =>
    by_cases hshort : field.length<6
    · refine .inr ⟨?_,.outOfRange,?_⟩
      · rintro ⟨_,⟨rfl⟩,hlong⟩
        omega
      · dsimp only
        rw [if_pos hshort]
        rfl
    · refine .inl ⟨⟨field,rfl,by omega⟩,?_⟩
      dsimp only
      rw [if_neg hshort]
      rfl

/-- A file is published exactly when what is wanted of it has a total. -/
theorem fileStall_cases (wantsFull : Bool) (id : Token) (file : Option Token) :
    HasTotals wantsFull file ∧
        fileStall wantsFull id file ()=⟨(),published wantsFull id file,.ok ()⟩ ∨
      ¬HasTotals wantsFull file ∧ ∃ outputs fault,
        fileStall wantsFull id file ()=⟨(),outputs,.error fault⟩ := by
  rw [fileStall,published,HasTotals]
  rcases readLinesFields file with _|⟨first,_|⟨second,_|⟨third,lines⟩⟩⟩
  · exact .inl ⟨by simp,rfl⟩
  · exact .inl ⟨by simp,rfl⟩
  · dsimp only
    rw [bind_apply]
    obtain ⟨hfirst,hrun⟩|⟨hfirst,fault,hrun⟩ := setStall_cases .some id first
    · cases wantsFull with
      | false =>
        refine .inl ⟨?_,?_⟩
        · rintro _ _ ⟨⟩
          exact ⟨hfirst,fun h => by cases h⟩
        · rw [hrun]
          rfl
      | true =>
        obtain ⟨hsecond,hrun'⟩|⟨hsecond,fault,hrun'⟩ := setStall_cases .full id second
        · refine .inl ⟨?_,?_⟩
          · rintro _ _ ⟨⟩
            exact ⟨hfirst,fun _ => hsecond⟩
          · rw [hrun,andThen_ok,if_pos rfl,hrun']
            rfl
        · refine .inr ⟨fun h => hsecond ((h _ _ rfl).2 rfl),[⟨.some,id,seconds first⟩],fault,?_⟩
          rw [hrun,andThen_ok,if_pos rfl,hrun']
          rfl
    · exact .inr ⟨fun h => hfirst (h _ _ rfl).1,_,fault,by rw [hrun,andThen_error]⟩
  · exact .inl ⟨by simp,rfl⟩

theorem returns_fileStall_iff (wantsFull : Bool) (id : Token) (file : Option Token) (s : Unit) :
    Returns (fileStall wantsFull id file) s ↔ HasTotals wantsFull file := by
  obtain ⟨h,hrun⟩|⟨h,outputs,fault,hrun⟩ := fileStall_cases wantsFull id file
  · exact iff_of_true ⟨(),by rw [hrun]⟩ h
  · refine iff_of_false ?_ h
    rintro ⟨value,hvalue⟩
    rw [hrun] at hvalue
    cases hvalue

theorem fileStall_eq {wantsFull : Bool} {file : Option Token} (h : HasTotals wantsFull file)
    (id : Token) (s : Unit) :
    fileStall wantsFull id file s=⟨(),published wantsFull id file,.ok ()⟩ :=
  (fileStall_cases wantsFull id file).elim And.right fun hnot => absurd h hnot.1

end Files

section Collectors

variable (files : PressureFiles)

/-- Each collector returns exactly when every line that it looks at has a total. -/
theorem returns_iff :
    (Returns (collect (some files)) () ↔
      HasTotals false files.cpu ∧ HasTotals true files.io ∧ HasTotals true files.memory) ∧
    (Returns (cgroupPressureStall files) () ↔
      HasTotals true files.cpu ∧ HasTotals true files.io ∧ HasTotals true files.memory) :=
  ⟨returns_seq (returns_fileStall_iff _ _ _ _) fun _ _ => returns_seq
      (returns_fileStall_iff _ _ _ _) fun _ _ => returns_fileStall_iff _ _ _ _,
    returns_seq (returns_fileStall_iff _ _ _ _) fun _ _ => returns_seq
      (returns_fileStall_iff _ _ _ _) fun _ _ => returns_fileStall_iff _ _ _ _⟩

variable {files}

theorem collect_outputs (hcpu : HasTotals false files.cpu) (hio : HasTotals true files.io)
    (hmemory : HasTotals true files.memory) :
    (collect (some files) ()).outputs=published false "cpu".toList files.cpu++
      (published true "io".toList files.io++published true "memory".toList files.memory) := by
  rw [collect,bind_apply,fileStall_eq hcpu,andThen_ok,bind_apply,fileStall_eq hio,andThen_ok,
    fileStall_eq hmemory]

theorem cgroupPressureStall_outputs (hcpu : HasTotals true files.cpu)
    (hio : HasTotals true files.io) (hmemory : HasTotals true files.memory) :
    (cgroupPressureStall files ()).outputs=published true "cpu".toList files.cpu++
      (published true "io".toList files.io++published true "memory".toList files.memory) := by
  rw [cgroupPressureStall,bind_apply,fileStall_eq hcpu,andThen_ok,bind_apply,fileStall_eq hio,
    andThen_ok,fileStall_eq hmemory]

/-- The one counter that the host does not have. -/
def isCpuFull (set : StallSet) : Bool := set.kind=.full && set.id="cpu".toList

theorem HasTotals.first {file : Option Token} (h : HasTotals true file) : HasTotals false file :=
  fun _ _ hlines => ⟨(h _ _ hlines).1,fun hfull => by cases hfull⟩

/-- Without the full line of the cpu its file is published as for the host. -/
theorem filter_published_cpu (file : Option Token) :
    (published true "cpu".toList file).filter (!isCpuFull ·)=
      published false "cpu".toList file := by
  rw [published,published]
  rcases readLinesFields file with _|⟨first,_|⟨second,_|⟨third,lines⟩⟩⟩
  · rfl
  · rfl
  · dsimp only
    rw [if_pos rfl,if_neg Bool.false_ne_true,List.filter_cons_of_pos rfl,
      List.filter_cons_of_neg (by simp [isCpuFull]),List.filter_nil]
  · rfl

theorem filter_published {id : Token} (hid : id≠"cpu".toList) (wantsFull : Bool)
    (file : Option Token) :
    (published wantsFull id file).filter (!isCpuFull ·)=published wantsFull id file := by
  refine List.filter_eq_self.mpr fun set hset => ?_
  have hset' : set.id=id := by
    rw [published] at hset
    split at hset
    · obtain rfl|hset := List.mem_cons.mp hset
      · rfl
      · split at hset
        · rw [List.mem_singleton.mp hset]
        · cases hset
    · cases hset
  rw [isCpuFull,hset',decide_eq_false hid,Bool.and_false,Bool.not_false]

/-- For files on which the collector of a container returns, that of the host
publishes the same but for the full pressure of the cpu. -/
theorem collect_eq_filter (h : Returns (cgroupPressureStall files) ()) :
    (collect (some files) ()).outputs=
      (cgroupPressureStall files ()).outputs.filter (!isCpuFull ·) := by
  obtain ⟨hcpu,hio,hmemory⟩ := (returns_iff files).2.mp h
  rw [collect_outputs hcpu.first hio hmemory,cgroupPressureStall_outputs hcpu hio hmemory,
    List.filter_append,List.filter_append,filter_published_cpu,filter_published (by decide),
    filter_published (by decide)]

end Collectors

section Written

/-- A line of a pressure file as the kernel writes it. -/
structure PsiLine where
  kind : Token
  avg10 : Token
  avg60 : Token
  avg300 : Token
  /-- Microseconds. -/
  total : ℕ

/-- The fields of a line. -/
def PsiLine.fields (line : PsiLine) : List Token :=
  ["avg10=".toList++line.avg10,"avg60=".toList++line.avg60,"avg300=".toList++line.avg300,
    "total=".toList++Nat.toDigits 10 line.total]

/-- The text of a line. -/
def PsiLine.text (line : PsiLine) : Token :=
  line.kind++spread (line.fields.map fun field => (0,field))

/-- The averages are without spaces and the total is an unsigned long. -/
structure PsiLine.WellFormed (line : PsiLine) : Prop where
  kind : Visible line.kind
  avg10 : ∀ c∈line.avg10,isSpace c=false
  avg60 : ∀ c∈line.avg60,isSpace c=false
  avg300 : ∀ c∈line.avg300,isSpace c=false
  total : line.total < size64

/-- A pressure file. -/
def psiText (first second : PsiLine) : Token := unlines [first.text,second.text]

variable {line first second : PsiLine}

theorem PsiLine.WellFormed.visible (h : line.WellFormed) :
    ∀ field∈line.kind::line.fields,Visible field := by
  have happend : ∀ {name value : Token},Visible name → (∀ c∈value,isSpace c=false) →
      Visible (name++value) := fun hname hvalue =>
    ⟨List.append_ne_nil_of_left_ne_nil hname.nonempty _,
      List.forall_mem_append.mpr ⟨hname.noSpace,hvalue⟩⟩
  simp only [PsiLine.fields,List.forall_mem_cons]
  exact ⟨h.kind,happend ⟨by decide,noSpace_of_all (by decide)⟩ h.avg10,
    happend ⟨by decide,noSpace_of_all (by decide)⟩ h.avg60,
    happend ⟨by decide,noSpace_of_all (by decide)⟩ h.avg300,
    happend ⟨by decide,noSpace_of_all (by decide)⟩ (visible_toDigits line.total).noSpace,
    List.forall_mem_nil _⟩

theorem PsiLine.WellFormed.split (h : line.WellFormed) :
    strSplit ' ' line.text=line.kind::line.fields := by
  have hfields : (line.fields.map fun field => (0,field)).map Prod.snd=line.fields := by
    rw [List.map_map]
    exact List.map_id _
  have hvisible : ∀ field∈line.kind::(line.fields.map fun field => (0,field)).map Prod.snd,
      Visible field := by
    rw [hfields]
    exact h.visible
  have hsplit : strSplit ' ' line.text=
      line.kind::(line.fields.map fun field => (0,field)).map Prod.snd := by
    rw [strSplit,List.splitOn_eq_splitOnP]
    refine filter_splitOnP_spread (by decide) (by decide) (fun field hfield => ?_) 0
    have hfield := hvisible field hfield
    refine ⟨decide_eq_true hfield.nonempty,fun c hc => ?_⟩
    have hspace := hfield.noSpace c hc
    rw [beq_eq_false_iff_ne]
    rintro rfl
    cases hspace
  rw [hsplit,hfields]

theorem PsiLine.WellFormed.not_mem (h : line.WellFormed) : '\n' ∉ line.text := by
  have hvisible := h.visible
  have hkind := (hvisible _ List.mem_cons_self).not_mem (c:= '\n') (by decide)
  have hrest : '\n' ∉ spread (line.fields.map fun field => (0,field)) := by
    refine not_mem_spread (by decide) fun field hfield => ?_
    obtain ⟨pair,hpair,rfl⟩ := List.mem_map.mp hfield
    obtain ⟨field,hfield,rfl⟩ := List.mem_map.mp hpair
    exact (hvisible field (List.mem_cons_of_mem _ hfield)).not_mem (by decide)
  rw [PsiLine.text,List.mem_append,not_or]
  exact ⟨hkind,hrest⟩

/-- The total of a line is read as it was written. -/
theorem PsiLine.WellFormed.total_eq (h : line.WellFormed) :
    HasTotal (line.kind::line.fields) ∧ seconds (line.kind::line.fields)=line.total/micros := by
  have hfield : (line.kind::line.fields)[4]?=some ("total=".toList++Nat.toDigits 10 line.total) :=
    rfl
  have hdrop : ("total=".toList++Nat.toDigits 10 line.total).drop 6=
      Nat.toDigits 10 line.total := rfl
  have hscan := (decimal_toDigits line.total).scanInteger_append noDigit_nil
  rw [List.append_nil] at hscan
  have hvalue : strtoul (Nat.toDigits 10 line.total)=line.total := by
    have hlarge : ¬size64 ≤ line.total := by
      have htotal := h.total
      omega
    rw [strtoul,hscan]
    dsimp only
    rw [if_neg hlarge,signed,if_neg Bool.false_ne_true,Int.emod_eq_of_lt (Int.natCast_nonneg _)
      (by exact_mod_cast h.total),Int.toNat_natCast]
  constructor
  · refine ⟨_,hfield,?_⟩
    rw [List.length_append]
    exact Nat.le_add_right_of_le (by decide)
  · rw [seconds,List.getD_eq_getElem?_getD,hfield,Option.getD_some,hdrop,hvalue]

/-- A written file has its totals, and they are published. -/
theorem psiText_spec (hfirst : first.WellFormed) (hsecond : second.WellFormed)
    (wantsFull : Bool) (id : Token) :
    HasTotals wantsFull (some (psiText first second)) ∧
      published wantsFull id (some (psiText first second))=
        ⟨.some,id,first.total/micros⟩::
          (if wantsFull then [⟨.full,id,second.total/micros⟩] else []) := by
  have hlines : readLinesFields (some (psiText first second))=
      [first.kind::first.fields,second.kind::second.fields] := by
    have hbreaks : ∀ text∈[first.text,second.text],'\n' ∉ text := by
      rw [List.forall_mem_cons,List.forall_mem_singleton]
      exact ⟨hfirst.not_mem,hsecond.not_mem⟩
    rw [readLinesFields,psiText,getLines_unlines hbreaks,List.map_cons,List.map_singleton,
      hfirst.split,hsecond.split]
  constructor
  · intro line line' h
    rw [hlines] at h
    cases h
    exact ⟨hfirst.total_eq.1,fun _ => hsecond.total_eq.1⟩
  · rw [published,hlines]
    dsimp only
    rw [hfirst.total_eq.2,hsecond.total_eq.2]

theorem hasTotals_none (wantsFull : Bool) : HasTotals wantsFull none := fun _ _ h => by cases h

end Written

/-- A file that is not there, or one as the kernel writes it. -/
inductive KernelFile : Option Token → Prop
  | missing : KernelFile none
  | written {first second : PsiLine} (hfirst : first.WellFormed) (hsecond : second.WellFormed) :
    KernelFile (some (psiText first second))

theorem KernelFile.hasTotals {file : Option Token} (h : KernelFile file) (wantsFull : Bool) :
    HasTotals wantsFull file := by
  cases h with
  | missing => exact hasTotals_none wantsFull
  | written hfirst hsecond => exact (psiText_spec hfirst hsecond wantsFull []).1

/-- Whatever the files hold, each collector returns exactly when the lines that
it takes of a file with two lines have a total, and then the host's publishes
what the container's does but for the full pressure of the cpu. Files as the
kernel writes them, or that are not there, make both return and every total is
published in seconds. -/
theorem pressureStall_spec :
    (∀ files,
      (Returns (collect (some files)) () ↔
        HasTotals false files.cpu ∧ HasTotals true files.io ∧ HasTotals true files.memory) ∧
      (Returns (cgroupPressureStall files) () ↔
        HasTotals true files.cpu ∧ HasTotals true files.io ∧ HasTotals true files.memory) ∧
      (Returns (cgroupPressureStall files) () → (collect (some files) ()).outputs=
        (cgroupPressureStall files ()).outputs.filter (!isCpuFull ·))) ∧
    (∀ files,KernelFile files.cpu → KernelFile files.io → KernelFile files.memory →
      Returns (cgroupPressureStall files) () ∧ (cgroupPressureStall files ()).outputs=
        published true "cpu".toList files.cpu++
          (published true "io".toList files.io++published true "memory".toList files.memory)) ∧
    ∀ first second : PsiLine,first.WellFormed → second.WellFormed → ∀ id,
      published true id (some (psiText first second))=
        [⟨.some,id,first.total/micros⟩,⟨.full,id,second.total/micros⟩] := by
  refine ⟨fun files => ⟨(returns_iff files).1,(returns_iff files).2,collect_eq_filter⟩,
    fun files hcpu hio hmemory => ?_,fun first second hfirst hsecond id => ?_⟩
  · have hall := And.intro (hcpu.hasTotals true) (And.intro (hio.hasTotals true)
      (hmemory.hasTotals true))
    exact ⟨(returns_iff files).2.mpr hall,cgroupPressureStall_outputs hall.1 hall.2.1 hall.2.2⟩
  · exact (psiText_spec hfirst hsecond true id).2

/-- A line without averages to speak of. -/
def shortLine (total : ℕ) : PsiLine := ⟨"some".toList,['0'],['0'],['0'],total⟩

theorem pressureStall_shortLine :
    let files := PressureFiles.mk (some (psiText (shortLine 2000000) (shortLine 5))) none none
    (cgroupPressureStall files ()).outputs.map (·.seconds)=[2,5/1000000] := by
  intro files
  have hkind : Visible "some".toList := ⟨by decide,noSpace_of_all (by decide)⟩
  have havg : ∀ c∈['0'],isSpace c=false := noSpace_of_all (by decide)
  have hline : ∀ total < size64,(shortLine total).WellFormed := fun total htotal =>
    ⟨hkind,havg,havg,havg,htotal⟩
  have hfirst := hline 2000000 (by decide)
  have hsecond := hline 5 (by decide)
  rw [(pressureStall_spec.2.1 files (.written hfirst hsecond) .missing .missing).2,
    pressureStall_spec.2.2 _ _ hfirst hsecond]
  norm_num [files,published,readLinesFields,shortLine,micros]

end AtlasAgent.PressureStall
