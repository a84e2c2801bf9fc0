import AtlasAgent.ProcNet
import AtlasAgent.ScanMarks

/-!
# What handle_line sets on the meters

The variables of handle_line are told apart by the line on which a scan found
their number, if a scan has assigned them at all. A pass is sound when it only
sets numbers of the line on which it found the name of the interface; what the
variables held before is then without effect.
-/

namespace AtlasAgent.NetDevReads

open NumberText ProcNet ScanMarks ScanfText SpacedText TextFields WhileLoop

/-- The variables of handle_line, with what a scan has assigned to them. -/
structure Sources where
  bytes : Option Reading
  packets : Option Reading
  errs : Option Reading
  drop : Option Reading
  fifo : Option Reading
  frame : Option Reading
  compressed : Option Reading
  multicast : Option Reading
  colls : Option Reading
  carrier : Option Reading

namespace Sources

/-- Before the first call. -/
def unassigned : Sources := ⟨none,none,none,none,none,none,none,none,none,none⟩

/-- What the first call assigns. -/
def storeReceive (sources : Sources) (readings : List Reading) : Sources :=
  { sources with
    bytes := readings[0]?.or sources.bytes
    packets := readings[1]?.or sources.packets
    errs := readings[2]?.or sources.errs
    drop := readings[3]?.or sources.drop
    fifo := readings[4]?.or sources.fifo
    frame := readings[5]?.or sources.frame
    compressed := readings[6]?.or sources.compressed
    multicast := readings[7]?.or sources.multicast }

/-- What the second call assigns. -/
def storeTransmit (sources : Sources) (readings : List Reading) : Sources :=
  { sources with
    bytes := readings[0]?.or sources.bytes
    packets := readings[1]?.or sources.packets
    errs := readings[2]?.or sources.errs
    drop := readings[3]?.or sources.drop
    fifo := readings[4]?.or sources.fifo
    colls := readings[5]?.or sources.colls
    carrier := readings[6]?.or sources.carrier
    compressed := readings[7]?.or sources.compressed }

/-- The variables that are set on meters after the first call. -/
def receiveUses (sources : Sources) : List (Option Reading) :=
  [sources.bytes,sources.packets,sources.errs,sources.fifo,sources.frame,sources.drop]

/-- The variables that are set on meters after the second call. -/
def transmitUses (sources : Sources) : List (Option Reading) :=
  [sources.colls,sources.bytes,sources.packets,sources.errs,sources.fifo,sources.drop]

/-- The variables, which hold what they held before where they are not assigned. -/
def locals (sources : Sources) (indeterminate : Locals) : Locals where
  iface := indeterminate.iface
  bytes := (sources.bytes.map Reading.value).getD indeterminate.bytes
  packets := (sources.packets.map Reading.value).getD indeterminate.packets
  errs := (sources.errs.map Reading.value).getD indeterminate.errs
  drop := (sources.drop.map Reading.value).getD indeterminate.drop
  fifo := (sources.fifo.map Reading.value).getD indeterminate.fifo
  frame := (sources.frame.map Reading.value).getD indeterminate.frame
  compressed := (sources.compressed.map Reading.value).getD indeterminate.compressed
  multicast := (sources.multicast.map Reading.value).getD indeterminate.multicast
  colls := (sources.colls.map Reading.value).getD indeterminate.colls
  carrier := (sources.carrier.map Reading.value).getD indeterminate.carrier

end Sources

/-- What the second call and the meters after it make of the variables. -/
def secondUses (sources : Sources) (file : InputFile) : List (Option Reading) :=
  let readings := (scanMany scanReading 8 file).1
  if readings=[] then [] else (sources.storeTransmit readings).transmitUses

/-- The variables that handle_line sets on meters. -/
def handleUses (file : InputFile) : List (Option Reading) :=
  match scanWord file with
  | (none,after) => secondUses .unassigned after
  | (some _,after) =>
    let scanned := scanMany scanReading 8 after
    let sources := Sources.unassigned.storeReceive scanned.1
    sources.receiveUses++secondUses sources scanned.2

/-- A pass that stays inside of its array and only sets numbers of its line. -/
structure LineSound (netTags : Tags) (indeterminate : Locals) (file : InputFile) : Prop where
  noFault : ∃ result,handleLine netTags indeterminate file=.ok result
  fromLine : ∀ use∈handleUses file,FromLine (lineOf (scanWord file).2) use

/-- The word fits into the array, six numbers follow it on its line, and where
the second call begins no number follows, or six follow on the same line. -/
def EnoughNumbers (file : InputFile) : Prop :=
  ∀ word after,scanWord file=(some word,after) →
    (word.length < ifaceSize ∧ word.head?≠some '\x00') ∧
    NumbersFrom isLineSpace 6 after.rest ∧
    let second := (scanLongs 8 after).2
    ¬NumbersFrom isSpace 1 second.rest ∨
      lineOf second=lineOf after ∧ NumbersFrom isLineSpace 6 second.rest

theorem fromLine_none (line : ℕ) : ¬FromLine line none := by
  rintro ⟨_,hnone⟩
  cases hnone

/-- A call converts something exactly when the text begins with a number. -/
theorem scanMany_ne_nil_iff (file : InputFile) :
    (scanMany scanReading 8 file).1≠[] ↔ NumbersFrom isSpace 1 file.rest := by
  have hlongs := congrArg (fun scanned => scanned.1.length) (scanLongs_eq_readings 8 file)
  rw [scanLongs_eq_scanMany,List.length_map] at hlongs
  have hscan : 1 ≤ (scanMany scanLongFrom 8 file).1.length ↔ NumbersFrom isSpace 1 file.rest :=
    le_length_scanMany_iff (by decide) file
  rw [←hscan,←List.length_pos_iff,←hlongs]
  rfl

/-- The first six readings in any order. -/
theorem forall_readings_iff (line : ℕ) (readings : List Reading) {indices : List ℕ}
    (h : indices.Perm (List.range 6)) :
    (∀ use∈indices.map (readings[·]?),FromLine line use) ↔
      ∀ i,i<6 → FromLine line readings[i]? := by
  simp only [List.forall_mem_map,h.mem_iff,List.mem_range]

/-- After the first call what is set stands on the line exactly when the first
six readings do. -/
theorem receiveUses_iff (line : ℕ) (readings : List Reading) :
    (∀ use∈(Sources.unassigned.storeReceive readings).receiveUses,FromLine line use) ↔
      ∀ i,i<6 → FromLine line readings[i]? := by
  have huses : (Sources.unassigned.storeReceive readings).receiveUses=
      [0,1,2,4,5,3].map (readings[·]?) := by
    simp [Sources.receiveUses,Sources.storeReceive,Sources.unassigned]
  rw [huses]
  exact forall_readings_iff line readings (by decide)

/-- After the second call, too: no other call assigns the sixth number, and with
it the others hide what was stored before. -/
theorem transmitUses_iff (line : ℕ) {sources : Sources} (hcolls : sources.colls=none)
    (readings : List Reading) :
    (∀ use∈(sources.storeTransmit readings).transmitUses,FromLine line use) ↔
      ∀ i,i<6 → FromLine line readings[i]? := by
  by_cases hlength : 5 < readings.length
  · have hhide : ∀ i,i<6 → ∀ earlier,readings[i]?.or earlier=readings[i]? := by
      intro i hi earlier
      rw [List.getElem?_eq_getElem (by omega)]
      rfl
    have huses : (sources.storeTransmit readings).transmitUses=
        [5,0,1,2,4,3].map (readings[·]?) := by
      simp [Sources.transmitUses,Sources.storeTransmit,hhide]
    rw [huses]
    exact forall_readings_iff line readings (by decide)
  · have hsixth : readings[5]?=none := List.getElem?_eq_none (by omega)
    have huse : none∈(sources.storeTransmit readings).transmitUses := by
      simp [Sources.transmitUses,Sources.storeTransmit,hsixth,hcolls]
    refine iff_of_false (fun h => fromLine_none line (h none huse)) fun h => ?_
    exact fromLine_none line (hsixth ▸ h 5 (by decide))

/-- What is set after the second call stands on the line exactly when nothing is
converted, or the line still goes on and six numbers follow on it. -/
theorem secondUses_iff {sources : Sources} (hcolls : sources.colls=none) {line : ℕ}
    {file : InputFile} (hline : lineOf file≤line) :
    (∀ use∈secondUses sources file,FromLine line use) ↔
      ¬NumbersFrom isSpace 1 file.rest ∨
        lineOf file=line ∧ NumbersFrom isLineSpace 6 file.rest := by
  rw [←scanMany_ne_nil_iff,secondUses]
  by_cases hnone : (scanMany scanReading 8 file).1=[]
  · rw [if_pos hnone]
    exact iff_of_true (by simp) (.inl (not_not_intro hnone))
  · rw [if_neg hnone,transmitUses_iff line hcolls,or_iff_right (not_not_intro hnone)]
    by_cases hsame : lineOf file=line
    · subst hsame
      rw [fromLine_scanMany_iff (by decide) file]
      exact (and_iff_right rfl).symm
    · refine iff_of_false (fun h => ?_) fun h => hsame h.1
      obtain ⟨value,hfirst⟩ := h 0 (by decide)
      have hbound := line_le_of_mem_scanMany (List.mem_of_getElem? hfirst)
      dsimp only at hbound
      omega

/-- A pass writes into its array only exactly when there is room for the word
and a character in front of the null character. -/
theorem handleLine_ok_iff (netTags : Tags) (indeterminate : Locals) {file after : InputFile}
    {word : Token} (hscan : scanWord file=(some word,after)) :
    (∃ result,handleLine netTags indeterminate file=.ok result) ↔
      word.length < ifaceSize ∧ word.head?≠some '\x00' := by
  have hne := (visible_of_scanWord hscan).nonempty
  have hempty : word.takeWhile (· ≠ '\x00')=[] ↔ word.head?=some '\x00' := by
    obtain ⟨c,rest,rfl⟩ := List.exists_cons_of_ne_nil hne
    by_cases hc : c= '\x00'
    · simp [hc]
    · simp [hc]
  have hfault : (ifaceSize<word.length+1 ∨ word.takeWhile (· ≠ '\x00')=[]) ↔
      ¬(word.length < ifaceSize ∧ word.head?≠some '\x00') := by
    rw [hempty,not_and_or,not_not]
    exact or_congr_left (by omega)
  rw [handleLine,hscan]
  dsimp only
  split_ifs with h
  · refine iff_of_false ?_ (hfault.mp h)
    rintro ⟨_,herror⟩
    cases herror
  · exact iff_of_true ⟨_,rfl⟩ (not_not.mp (mt hfault.mpr h))

/-- What a pass sets stands on the line of its word exactly when the numbers are
as they have to be. -/
theorem handleUses_iff {file after : InputFile} {word : Token}
    (hscan : scanWord file=(some word,after)) :
    (∀ use∈handleUses file,FromLine (lineOf after) use) ↔
      NumbersFrom isLineSpace 6 after.rest ∧
        (¬NumbersFrom isSpace 1 (scanLongs 8 after).2.rest ∨
          lineOf (scanLongs 8 after).2=lineOf after ∧
            NumbersFrom isLineSpace 6 (scanLongs 8 after).2.rest) := by
  have hsecond : (scanLongs 8 after).2=(scanMany scanReading 8 after).2 :=
    congrArg Prod.snd (scanLongs_eq_readings 8 after)
  have hlater : lineOf (scanMany scanReading 8 after).2 ≤ lineOf after :=
    lineOf_le_of_later (laterThan_scanMany laterThan_scanReading 8 after)
  rw [handleUses,hscan]
  dsimp only
  rw [List.forall_mem_append,receiveUses_iff,fromLine_scanMany_iff (by decide) after,
    secondUses_iff rfl hlater,hsecond]

/-- A pass is sound exactly when the word and the numbers are as they have to be. -/
theorem lineSound_iff (netTags : Tags) (indeterminate : Locals) (file : InputFile) :
    LineSound netTags indeterminate file ↔ EnoughNumbers file := by
  cases hscan : scanWord file with
  | mk word after =>
    cases word with
    | none =>
      have huses : handleUses file=[] := by
        rw [handleUses,hscan,eq_end_of_scanWord hscan]
        rfl
      refine iff_of_true ⟨?_,by simp [huses]⟩ fun word after h => ?_
      · rw [handleLine,hscan]
        exact ⟨_,rfl⟩
      · rw [hscan] at h
        cases h
    | some word =>
      have hok := handleLine_ok_iff netTags indeterminate hscan
      have huses := handleUses_iff hscan
      have hline : lineOf (scanWord file).2=lineOf after := by rw [hscan]
      constructor
      · intro h word' after' hword
        rw [hscan] at hword
        cases hword
        exact ⟨hok.mp h.noFault,huses.mp (hline ▸ h.fromLine)⟩
      · intro h
        obtain ⟨hfits,hnumbers⟩ := h word after hscan
        exact ⟨hok.mpr hfits,hline ▸ huses.mpr hnumbers⟩

section Locals

variable (netTags : Tags) {sources : Sources} {a b : Locals}

theorem getD_or_map (reading earlier : Option Reading) (value : ℤ) :
    ((reading.or earlier).map Reading.value).getD value=
      (reading.map Reading.value).getD ((earlier.map Reading.value).getD value) := by
  cases reading <;> rfl

/-- The variables hold the values of what has been assigned to them. -/
theorem locals_storeReceive (sources : Sources) (indeterminate : Locals)
    (readings : List Reading) :
    (sources.storeReceive readings).locals indeterminate=
      (sources.locals indeterminate).storeReceive (readings.map Reading.value) := by
  simp only [Sources.locals,Sources.storeReceive,Locals.storeReceive,getD_or_map,
    List.getD_eq_getElem?_getD,List.getElem?_map]

theorem locals_storeTransmit (sources : Sources) (indeterminate : Locals)
    (readings : List Reading) :
    (sources.storeTransmit readings).locals indeterminate=
      (sources.locals indeterminate).storeTransmit (readings.map Reading.value) := by
  simp only [Sources.locals,Sources.storeTransmit,Locals.storeTransmit,getD_or_map,
    List.getD_eq_getElem?_getD,List.getElem?_map]

/-- The variables after the first call. -/
theorem storeReceive_eq_locals (indeterminate : Locals) (file : InputFile) :
    indeterminate.storeReceive (scanLongs 8 file).1=
      (Sources.unassigned.storeReceive (scanMany scanReading 8 file).1).locals indeterminate := by
  rw [locals_storeReceive,scanLongs_eq_readings]
  rfl

/-- Without effect is what a variable held that has been assigned. -/
theorem getD_congr {uses : List (Option Reading)} (h : ∀ use∈uses,use.isSome)
    {use : Option Reading} (huse : use∈uses) (x y : ℤ) :
    (use.map Reading.value).getD x=(use.map Reading.value).getD y := by
  obtain ⟨reading,rfl⟩ := Option.isSome_iff_exists.mp (h use huse)
  rfl

/-- The counters do not depend on what the variables held before when all that
are set have been assigned. -/
theorem receiveCounters_congr (h : ∀ use∈sources.receiveUses,use.isSome)
    (hiface : a.iface=b.iface) :
    (sources.locals a).receiveCounters netTags=(sources.locals b).receiveCounters netTags := by
  simp only [Locals.receiveCounters,Sources.locals,hiface]
  rw [getD_congr h (by simp [Sources.receiveUses]) a.bytes b.bytes,
    getD_congr h (by simp [Sources.receiveUses]) a.packets b.packets,
    getD_congr h (by simp [Sources.receiveUses]) a.errs b.errs,
    getD_congr h (by simp [Sources.receiveUses]) a.fifo b.fifo,
    getD_congr h (by simp [Sources.receiveUses]) a.frame b.frame,
    getD_congr h (by simp [Sources.receiveUses]) a.drop b.drop]

theorem transmitCounters_congr (h : ∀ use∈sources.transmitUses,use.isSome)
    (hiface : a.iface=b.iface) :
    (sources.locals a).transmitCounters netTags=(sources.locals b).transmitCounters netTags := by
  simp only [Locals.transmitCounters,Sources.locals,hiface]
  rw [getD_congr h (by simp [Sources.transmitUses]) a.colls b.colls,
    getD_congr h (by simp [Sources.transmitUses]) a.bytes b.bytes,
    getD_congr h (by simp [Sources.transmitUses]) a.packets b.packets,
    getD_congr h (by simp [Sources.transmitUses]) a.errs b.errs,
    getD_congr h (by simp [Sources.transmitUses]) a.fifo b.fifo,
    getD_congr h (by simp [Sources.transmitUses]) a.drop b.drop]

/-- Neither does what the second call publishes. -/
theorem handleTransmit_congr {file : InputFile} (h : ∀ use∈secondUses sources file,use.isSome)
    (hiface : a.iface=b.iface) :
    handleTransmit netTags (sources.locals a) file=
      handleTransmit netTags (sources.locals b) file := by
  rw [handleTransmit,handleTransmit,scanLongs_eq_readings]
  rw [secondUses] at h
  dsimp only
  rw [←locals_storeTransmit,←locals_storeTransmit]
  split_ifs with hnone
  · rfl
  · rw [if_neg (by simpa using hnone)] at h
    rw [transmitCounters_congr netTags h hiface]

end Locals

/-- A sound pass does the same whatever its variables held before. -/
theorem handleLine_congr {netTags : Tags} {a : Locals} {file : InputFile}
    (h : LineSound netTags a file) (b : Locals) :
    handleLine netTags a file=handleLine netTags b file := by
  have hsome : ∀ use∈handleUses file,use.isSome := fun use huse => by
    obtain ⟨value,hvalue⟩ := h.fromLine use huse
    rw [hvalue]
    rfl
  rw [handleUses] at hsome
  rw [handleLine,handleLine]
  cases hscan : scanWord file with
  | mk word after =>
    rw [hscan] at hsome
    cases word with
    | none =>
      rw [eq_end_of_scanWord hscan]
      rfl
    | some word =>
      dsimp only at hsome ⊢
      rw [List.forall_mem_append] at hsome
      obtain ⟨hreceive,htransmit⟩ := hsome
      split_ifs with hfault
      · rfl
      · generalize (word.takeWhile (· ≠ '\x00')).dropLast=name
        have hsecond : (scanLongs 8 after).2=(scanMany scanReading 8 after).2 :=
          congrArg Prod.snd (scanLongs_eq_readings 8 after)
        have hname : { a with iface := name }.iface={ b with iface := name }.iface := rfl
        rw [storeReceive_eq_locals,storeReceive_eq_locals,hsecond,
          receiveCounters_congr netTags hreceive hname,handleTransmit_congr netTags htransmit hname]

/-- From a state on whose way all passes are sound the loop does the same
whatever the variables of its passes held before. -/
theorem runLoop_congr {netTags : Tags} {a : Locals} (b : Locals) (fuel : ℕ)
    (s : InputFile×List Counter)
    (h : ∀ s',Relation.ReflTransGen (fun s s' => linePass netTags a s=.inl s') s s' →
      s'.1.eof=false → LineSound netTags a s'.1) :
    runLoop (linePass netTags a) fuel s=runLoop (linePass netTags b) fuel s := by
  induction fuel generalizing s with
  | zero => rfl
  | succ fuel ih =>
    have hpass : linePass netTags a s=linePass netTags b s := by
      rw [linePass,linePass]
      split_ifs with heof
      · rfl
      · rw [handleLine_congr (h s .refl (Bool.eq_false_iff.mpr heof)) b]
    rw [runLoop,runLoop,←hpass]
    cases hnext : linePass netTags a s with
    | inr result => rfl
    | inl next => exact ih next fun s' hs' => h s' (.head hnext hs')

/-- A content of which every pass has a word that fits and numbers enough is
published independently of what the variables held before any scan. -/
theorem network_stats_determined {netTags : Tags} {a : Locals} {text : Token}
    (h : ∀ s,Reached netTags a text s → s.1.eof=false → EnoughNumbers s.1) (b : Locals)
    (result : Except MemoryFault (List Counter)) :
    NetworkStats netTags a (some text) result ↔ NetworkStats netTags b (some text) result := by
  have hsound : ∀ s,Reached netTags a text s → s.1.eof=false → LineSound netTags a s.1 :=
    fun s hs heof => (lineSound_iff netTags a s.1).mpr (h s hs heof)
  exact exists_congr fun fuel => by rw [runLoop_congr b fuel _ hsound]

/-- A content of one line that counts up, without a final line break. -/
def countingDev : Token := netDev [] [] [countingLine "lo".toList] false

/-- The line is published the same when all the variables held a seven before. -/
theorem network_stats_determined_counting :
    NetworkStats ∅ ⟨[],7,7,7,7,7,7,7,7,7,7⟩ (some countingDev)
      (.ok ((countingInterface "lo".toList).counters ∅)) := by
  let start : InputFile×List Counter := (⟨countingLine "lo".toList,false⟩,[])
  have hfirst : linePass ∅ unset start=
      .inl (⟨[],true⟩,(countingInterface "lo".toList).counters ∅) := by decide +kernel
  have hreached : ∀ s,Reached ∅ unset countingDev s → s=start ∨ s.1.eof=true := by
    intro s hs
    induction hs with
    | refl => exact Or.inl rfl
    | tail _ hpass ih =>
      rcases ih with rfl|heof
      · rw [hfirst] at hpass
        exact Or.inr (by rw [←Sum.inl.inj hpass])
      · rw [linePass,if_pos heof] at hpass
        cases hpass
  have henough : ∀ s,Reached ∅ unset countingDev s → s.1.eof=false → EnoughNumbers s.1 := by
    intro s hs heof
    obtain rfl : s=start := (hreached s hs).resolve_right (by simp [heof])
    have hscan : scanWord start.1=(some "lo:".toList,
        ⟨" 1 2 3 4 5 6 7 8 9 10 11 12 13 14 15 16".toList,false⟩) := by decide +kernel
    intro word after hword
    rw [hscan] at hword
    cases hword
    decide +kernel
  have hends : NetworkStats ∅ unset (some countingDev)
      (.ok ((countingInterface "lo".toList).counters ∅)) := ⟨2,by decide +kernel⟩
  exact (network_stats_determined henough _ _).mp hends

end AtlasAgent.NetDevReads
