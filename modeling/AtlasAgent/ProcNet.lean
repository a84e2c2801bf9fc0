import AtlasAgent.ScanfText
import AtlasAgent.WhileLoop
import Mathlib.Data.List.AList

/-!
# Proc::network_stats

net/dev is read by two fscanf calls for every interface, in a loop that only
asks for the end of the file. The scans do not see line ends, so they stay at
the lines because a line has exactly the words and numbers of the two formats;
the loop ends because a pass that converts no word has met the end.
-/

namespace AtlasAgent.ProcNet

open DecimalText NumberText ScanfText SpacedText TextFields WhileLoop

/-- A write outside of the array that a string is stored in. -/
inductive MemoryFault
  | outOfBounds
  deriving DecidableEq

/-- The tags of a meter. -/
abbrev Tags := AList fun _ : Token => Token

/-- Tags are equal when their entries are. -/
instance : DecidableEq Tags := fun _ _ => decidable_of_iff _ AList.ext_iff.symm

/-- std::unordered_map::emplace: a key that is there keeps its value. -/
def emplace (key value : Token) (tags : Tags) : Tags :=
  if key∈tags then tags else tags.insert key value

/-- A monotonic counter that has been set. -/
structure Counter where
  name : Token
  tags : Tags
  value : ℤ
  deriving DecidableEq

/-- Characters of the array iface. -/
def ifaceSize : ℕ := 4096

/-- The variables of handle_line. -/
structure Locals where
  /-- The string in the array, up to its first null character. -/
  iface : Token
  bytes : ℤ
  packets : ℤ
  errs : ℤ
  drop : ℤ
  fifo : ℤ
  frame : ℤ
  compressed : ℤ
  multicast : ℤ
  colls : ℤ
  carrier : ℤ

/-- The sum of two int64_t. -/
def addInt64 (a b : ℤ) : ℤ := (a+b).bmod size64

/-- The numbers that the first call converts; those it does not reach keep
what they held. -/
def Locals.storeReceive (locals : Locals) (values : List ℤ) : Locals :=
  { locals with
    bytes := values.getD 0 locals.bytes
    packets := values.getD 1 locals.packets
    errs := values.getD 2 locals.errs
    drop := values.getD 3 locals.drop
    fifo := values.getD 4 locals.fifo
    frame := values.getD 5 locals.frame
    compressed := values.getD 6 locals.compressed
    multicast := values.getD 7 locals.multicast }

/-- The numbers that the second call converts. -/
def Locals.storeTransmit (locals : Locals) (values : List ℤ) : Locals :=
  { locals with
    bytes := values.getD 0 locals.bytes
    packets := values.getD 1 locals.packets
    errs := values.getD 2 locals.errs
    drop := values.getD 3 locals.drop
    fifo := values.getD 4 locals.fifo
    colls := values.getD 5 locals.colls
    carrier := values.getD 6 locals.carrier
    compressed := values.getD 7 locals.compressed }

/-- The counters set after the first call. -/
def Locals.receiveCounters (locals : Locals) (netTags : Tags) : List Counter :=
  let allTagsIn := emplace "id".toList "in".toList (emplace "iface".toList locals.iface netTags)
  [⟨"net.iface.bytes".toList,allTagsIn,locals.bytes⟩,
    ⟨"net.iface.packets".toList,allTagsIn,locals.packets⟩,
    ⟨"net.iface.errors".toList,allTagsIn,addInt64 (addInt64 locals.errs locals.fifo) locals.frame⟩,
    ⟨"net.iface.droppedPackets".toList,allTagsIn,locals.drop⟩]

/-- The counters set after the second call. -/
def Locals.transmitCounters (locals : Locals) (netTags : Tags) : List Counter :=
  let allTags := emplace "iface".toList locals.iface netTags
  let allTagsOut := emplace "id".toList "out".toList allTags
  [⟨"net.iface.collisions".toList,allTags,locals.colls⟩,
    ⟨"net.iface.bytes".toList,allTagsOut,locals.bytes⟩,
    ⟨"net.iface.packets".toList,allTagsOut,locals.packets⟩,
    ⟨"net.iface.errors".toList,allTagsOut,addInt64 locals.errs locals.fifo⟩,
    ⟨"net.iface.droppedPackets".toList,allTagsOut,locals.drop⟩]

/-- discard_line. -/
def discardLine (file : InputFile) : InputFile :=
  match file.rest.dropWhile (· ≠ '\n') with
  | [] => ⟨[],true⟩
  | _::rest => ⟨rest,file.eof⟩

/-- The second call of handle_line and what is published after it. -/
def handleTransmit (netTags : Tags) (locals : Locals) (file : InputFile) :
    InputFile×List Counter :=
  let (values,after) := scanLongs 8 file
  (after,if values=[] then [] else (locals.storeTransmit values).transmitCounters netTags)

/-- Proc::handle_line. Its variables hold the given values before they are
assigned. The word is stored with a null character after it, and the character
in front of its first null character is made null, too. -/
def handleLine (netTags : Tags) (indeterminate : Locals) (file : InputFile) :
    Except MemoryFault (InputFile×List Counter) :=
  match scanWord file with
  | (none,after) => .ok (handleTransmit netTags indeterminate after)
  | (some word,after) =>
    let text := word.takeWhile (· ≠ '\x00')
    if ifaceSize<word.length+1 ∨ text=[] then .error .outOfBounds
    else
      let (values,afterReceive) := scanLongs 8 after
      let locals := { indeterminate with iface := text.dropLast }.storeReceive values
      let (afterTransmit,transmitted) := handleTransmit netTags locals afterReceive
      .ok (afterTransmit,locals.receiveCounters netTags++transmitted)

/-- One pass of the loop in network_stats, with what has been published so far. -/
def linePass (netTags : Tags) (indeterminate : Locals) (s : InputFile×List Counter) :
    (InputFile×List Counter)⊕Except MemoryFault (List Counter) :=
  if s.1.eof=true then .inr (.ok s.2)
  else
    match handleLine netTags indeterminate s.1 with
    | .error fault => .inr (.error fault)
    | .ok (file,counters) => .inl (file,s.2++counters)

/-- Proc::network_stats ends with what it publishes, or a fault. -/
def NetworkStats (netTags : Tags) (indeterminate : Locals) (text : Option Token)
    (result : Except MemoryFault (List Counter)) : Prop :=
  match text with
  | none => result=.ok []
  | some text =>
    Ends (linePass netTags indeterminate) (discardLine (discardLine (openFile text)),[]) result

/-- No word of the text fills the array. -/
def ShortWords (text : Token) : Prop :=
  ∀ word,word <:+: text → (∀ c∈word,isSpace c=false) → word.length < ifaceSize

theorem ShortWords.later {file after : InputFile} (h : ShortWords file.rest)
    (hlater : LaterThan after file) : ShortWords after.rest :=
  fun word hword => h word (hword.trans hlater.suffix.isInfix)

/-- The word that the next pass reads as a name, if there is one, does not begin
with a null character. -/
def NameBegins (file : InputFile) : Prop :=
  ∀ word after,scanWord file=(some word,after) → word.head?≠some '\x00'

/-- The states that the loop of network_stats comes to. -/
def Reached (netTags : Tags) (indeterminate : Locals) (text : Token) :
    InputFile×List Counter → Prop :=
  Relation.ReflTransGen (fun s s' => linePass netTags indeterminate s=.inl s')
    (discardLine (discardLine (openFile text)),[])

/-- What is left of a file, the end that has not been met included. -/
def size (file : InputFile) : ℕ := file.rest.length+if file.eof=true then 0 else 1

theorem size_le_of_later {file after : InputFile} (h : LaterThan after file) :
    size after ≤ size file := by
  have hlength := h.suffix.length_le
  have heof := h.eof
  rw [size,size]
  split <;> split <;> grind

/-- handle_line takes something from a file whose end has not been met. -/
theorem handleLine_ok (netTags : Tags) (indeterminate : Locals) {file : InputFile}
    (hshort : ShortWords file.rest) (hname : NameBegins file) (heof : file.eof=false) :
    ∃ after counters,handleLine netTags indeterminate file=.ok (after,counters) ∧
      LaterThan after file ∧ size after < size file := by
  have hsize : size file=file.rest.length+1 := by rw [size,heof]; rfl
  have hlater := laterThan_scanWord file
  rw [handleLine]
  rcases scanWord_cases file with ⟨word,hword,hvisible,hsuffix⟩|⟨hword,hend⟩
  · have hpiece : word <:+: file.rest :=
      (List.infix_append' [] word _).trans hsuffix.isInfix
    have hroom := hshort word hpiece hvisible.noSpace
    obtain ⟨after,hscan⟩ : ∃ after,scanWord file=(some word,after) :=
      ⟨(scanWord file).2,Prod.ext hword rfl⟩
    have hbegins := hname word after hscan
    rw [hscan] at hlater hsuffix ⊢
    dsimp only at hlater hsuffix ⊢
    have htext : word.takeWhile (· ≠ '\x00')≠[] := by
      obtain ⟨c,rest,rfl⟩ := List.exists_cons_of_ne_nil hvisible.nonempty
      have hc : c≠ '\x00' := fun h => hbegins (congrArg some h)
      rw [List.takeWhile_cons_of_pos (by simpa using hc)]
      exact List.cons_ne_nil _ _
    have hfits : ¬(ifaceSize<word.length+1 ∨ word.takeWhile (· ≠ '\x00')=[]) :=
      not_or.mpr ⟨by omega,htext⟩
    rw [if_neg hfits]
    have hrest := (laterThan_scanLongs 8 (scanLongs 8 after).2).trans (laterThan_scanLongs 8 after)
    have hlength := hsuffix.length_le
    have hpositive := List.length_pos_iff.mpr hvisible.nonempty
    have hless : size after < size file := by
      rw [List.length_append] at hlength
      rw [hsize,size]
      split <;> omega
    exact ⟨_,_,rfl,hrest.trans hlater,(size_le_of_later hrest).trans_lt hless⟩
  · obtain ⟨after,hscan⟩ : ∃ after,scanWord file=(none,after) :=
      ⟨(scanWord file).2,Prod.ext hword rfl⟩
    rw [hscan] at hlater hend ⊢
    dsimp only at hlater hend ⊢
    have hrest := laterThan_scanLongs 8 after
    have hzero : size after=0 := by rw [hend]; rfl
    have hless : size (scanLongs 8 after).2 < size file :=
      (size_le_of_later hrest).trans_lt (by omega)
    exact ⟨_,_,rfl,hrest.trans hlater,hless⟩

/-- A name that begins with a null character is a fault. -/
theorem handleLine_fault (netTags : Tags) (indeterminate : Locals) {file : InputFile}
    (h : ¬NameBegins file) : handleLine netTags indeterminate file=.error .outOfBounds := by
  obtain ⟨word,after,hscan,hhead⟩ : ∃ word after,scanWord file=(some word,after) ∧
      word.head?=some '\x00' := by
    simpa [NameBegins] using h
  have htext : word.takeWhile (· ≠ '\x00')=[] := by
    cases word with
    | nil => rfl
    | cons c rest =>
      have hc : c= '\x00' := Option.some.inj hhead
      exact List.takeWhile_cons_of_neg (by simp [hc])
  rw [handleLine,hscan]
  exact if_pos (Or.inr htext)

/-- The loop over short words ends, and without a fault exactly when no name
that it comes to begins with a null character. -/
theorem networkStats_ends_iff (netTags : Tags) (indeterminate : Locals) {text : Token}
    (hshort : ShortWords (discardLine (discardLine (openFile text))).rest) :
    (∃ counters,NetworkStats netTags indeterminate (some text) (.ok counters)) ↔
      ∀ s,Reached netTags indeterminate text s → s.1.eof=false → NameBegins s.1 := by
  constructor
  · rintro ⟨counters,hends⟩ s hreached heof
    by_contra hname
    have hfault : linePass netTags indeterminate s=.inr (.error .outOfBounds) := by
      rw [linePass,if_neg (by simp [heof]),handleLine_fault netTags indeterminate hname]
    have hback := (ends_reached_iff hreached).mpr (ends_of_result hfault)
    cases hends.unique hback
  · intro hnames
    let Inv := fun s => ShortWords s.1.rest ∧ Reached netTags indeterminate text s
    have hline : ∀ s,Inv s → s.1.eof=false → ∃ after counters,
        handleLine netTags indeterminate s.1=.ok (after,counters) ∧ LaterThan after s.1 ∧
          size after < size s.1 := fun s hs heof =>
      handleLine_ok netTags indeterminate hs.1 (hnames s hs.2 heof) heof
    have hpass : ∀ s s' : InputFile×List Counter,Inv s →
        linePass netTags indeterminate s=.inl s' → Inv s' ∧ size s'.1 < size s.1 := by
      intro s s' hs hstep
      have hnext : Reached netTags indeterminate text s' := hs.2.tail hstep
      rw [linePass] at hstep
      split at hstep
      · cases hstep
      · next heof =>
        obtain ⟨after,counters,hok,hlater,hless⟩ := hline s hs (Bool.eq_false_iff.mpr heof)
        rw [hok] at hstep
        cases hstep
        exact ⟨⟨hs.1.later hlater,hnext⟩,hless⟩
    have hresult : ∀ (s : InputFile×List Counter) (result : Except MemoryFault (List Counter)),
        Inv s → linePass netTags indeterminate s=.inr result →
          ∃ counters,result=.ok counters := by
      intro s result hs hstep
      rw [linePass] at hstep
      split at hstep
      · exact ⟨s.2,(Sum.inr.inj hstep).symm⟩
      · next heof =>
        obtain ⟨after,counters,hok,-⟩ := hline s hs (Bool.eq_false_iff.mpr heof)
        rw [hok] at hstep
        cases hstep
    have hstart : Inv (discardLine (discardLine (openFile text)),[]) := ⟨hshort,.refl⟩
    obtain ⟨_,hends,counters,rfl⟩ := ends_of_size (fun s => size s.1) hpass hresult hstart
    exact ⟨counters,hends⟩

/-- The first eight numbers of an interface. -/
structure Receive where
  bytes : ℤ
  packets : ℤ
  errs : ℤ
  drop : ℤ
  fifo : ℤ
  frame : ℤ
  compressed : ℤ
  multicast : ℤ

/-- The numbers as the line has them. -/
def Receive.toList (receive : Receive) : List ℤ :=
  [receive.bytes,receive.packets,receive.errs,receive.drop,receive.fifo,receive.frame,
    receive.compressed,receive.multicast]

/-- The other eight numbers of an interface. -/
structure Transmit where
  bytes : ℤ
  packets : ℤ
  errs : ℤ
  drop : ℤ
  fifo : ℤ
  colls : ℤ
  carrier : ℤ
  compressed : ℤ

/-- The numbers as the line has them. -/
def Transmit.toList (transmit : Transmit) : List ℤ :=
  [transmit.bytes,transmit.packets,transmit.errs,transmit.drop,transmit.fifo,transmit.colls,
    transmit.carrier,transmit.compressed]

/-- An interface of net/dev. -/
structure Interface where
  name : Token
  receive : Receive
  transmit : Transmit

namespace Interface

/-- A name without spaces and numbers that fit, as do their sums. -/
structure Fits (interface : Interface) : Prop where
  noSpace : ∀ c∈interface.name,isSpace c=false
  receive : ∀ number∈interface.receive.toList,FitsInt64 number
  transmit : ∀ number∈interface.transmit.toList,FitsInt64 number
  receiveErrors :
    FitsInt64 (interface.receive.errs+interface.receive.fifo+interface.receive.frame)
  transmitErrors : FitsInt64 (interface.transmit.errs+interface.transmit.fifo)

/-- A name that fits into the array with its colon and has no null character. -/
structure Storable (interface : Interface) : Prop where
  short : (interface.name++[':']).length < ifaceSize
  noNull : '\x00' ∉ interface.name

/-- The nine values of an interface. -/
def counters (netTags : Tags) (interface : Interface) : List Counter :=
  let allTags := netTags.insert "iface".toList interface.name
  let allTagsIn := allTags.insert "id".toList "in".toList
  let allTagsOut := allTags.insert "id".toList "out".toList
  let receive := interface.receive
  let transmit := interface.transmit
  [⟨"net.iface.bytes".toList,allTagsIn,receive.bytes⟩,
    ⟨"net.iface.packets".toList,allTagsIn,receive.packets⟩,
    ⟨"net.iface.errors".toList,allTagsIn,receive.errs+receive.fifo+receive.frame⟩,
    ⟨"net.iface.droppedPackets".toList,allTagsIn,receive.drop⟩,
    ⟨"net.iface.collisions".toList,allTags,transmit.colls⟩,
    ⟨"net.iface.bytes".toList,allTagsOut,transmit.bytes⟩,
    ⟨"net.iface.packets".toList,allTagsOut,transmit.packets⟩,
    ⟨"net.iface.errors".toList,allTagsOut,transmit.errs+transmit.fifo⟩,
    ⟨"net.iface.droppedPackets".toList,allTagsOut,transmit.drop⟩]

end Interface

/-- A line of an interface: its name and a colon after any blanks, and its
numbers with blanks in front of each. -/
def IsLine (interface : Interface) (line : Token) : Prop :=
  ∃ (lead : ℕ) (receive transmit : List (ℕ×Token)),
    List.Forall₂ (fun field number => Integer field.2 number) receive interface.receive.toList ∧
    List.Forall₂ (fun field number => Integer field.2 number) transmit interface.transmit.toList ∧
    line=List.replicate lead ' '++(interface.name++[':'])++spread receive++spread transmit

/-- What follows a line: the other lines, and perhaps a line break at the end. -/
def linesAfter (lines : List Token) (final : Bool) : Token :=
  lines.flatMap ('\n'::·)++if final=true then ['\n'] else []

/-- Two header lines and the lines of interfaces. -/
def netDev (header header' : Token) (lines : List Token) (final : Bool) : Token :=
  header++ '\n'::header'++linesAfter lines final

/-- What follows a line begins with a line break. -/
theorem head_linesAfter (lines : List Token) (final : Bool) :
    ∀ c∈(linesAfter lines final).head?,c= '\n' := by
  rw [linesAfter]
  cases lines with
  | nil => cases final <;> simp
  | cons next lines => simp

theorem addInt64_eq {a b : ℤ} (h : FitsInt64 (a+b)) : addInt64 a b=a+b :=
  Int.bmod_eq_of_le (by simp only [size64]; have := h.1; omega)
    (by simp only [size64]; have := h.2; omega)

/-- A sum of three wraps around once. -/
theorem addInt64_addInt64_eq {a b c : ℤ} (h : FitsInt64 (a+b+c)) :
    addInt64 (addInt64 a b) c=a+b+c := by
  rw [addInt64,addInt64,Int.bmod_add_bmod]
  exact addInt64_eq h

theorem emplace_new {key : Token} (value : Token) {tags : Tags} (h : key∉tags) :
    emplace key value tags=tags.insert key value := if_neg h

theorem storeReceive_toList (locals : Locals) (receive : Receive) :
    locals.storeReceive receive.toList=
      ⟨locals.iface,receive.bytes,receive.packets,receive.errs,receive.drop,receive.fifo,
        receive.frame,receive.compressed,receive.multicast,locals.colls,locals.carrier⟩ := rfl

theorem storeTransmit_toList (locals : Locals) (transmit : Transmit) :
    locals.storeTransmit transmit.toList=
      ⟨locals.iface,transmit.bytes,transmit.packets,transmit.errs,transmit.drop,transmit.fifo,
        locals.frame,transmit.compressed,locals.multicast,transmit.colls,transmit.carrier⟩ := rfl

/-- The counters set from the numbers of an interface are its nine values. -/
theorem receiveCounters_append_transmitCounters {netTags : Tags} {interface : Interface}
    (h : interface.Fits) (hiface : "iface".toList∉netTags) (hid : "id".toList∉netTags)
    (locals : Locals) (hname : locals.iface=interface.name) :
    let received := locals.storeReceive interface.receive.toList
    received.receiveCounters netTags++
      (received.storeTransmit interface.transmit.toList).transmitCounters netTags=
        interface.counters netTags := by
  have hnewId : "id".toList∉netTags.insert "iface".toList interface.name := by
    rw [AList.mem_insert,not_or]
    exact ⟨by decide,hid⟩
  have htags : emplace "iface".toList locals.iface netTags=
      netTags.insert "iface".toList interface.name := by rw [hname,emplace_new _ hiface]
  dsimp only
  rw [storeReceive_toList,storeTransmit_toList]
  dsimp only [Locals.receiveCounters,Locals.transmitCounters]
  rw [htags,emplace_new _ hnewId,emplace_new _ hnewId,addInt64_addInt64_eq h.receiveErrors,
    addInt64_eq h.transmitErrors]
  rfl

/-- The name with its colon is read as one word. -/
theorem Interface.Fits.visible {interface : Interface} (h : interface.Fits) :
    Visible (interface.name++[':']) := by
  refine ⟨by simp,fun c hc => ?_⟩
  rcases List.mem_append.mp hc with hc|hc
  · exact h.noSpace c hc
  · rw [List.mem_singleton.mp hc]
    decide

/-- The array holds the name with its colon. -/
theorem Interface.Storable.stored {interface : Interface} (h : interface.Storable) :
    (interface.name++[':']).takeWhile (· ≠ '\x00')=interface.name++[':'] ∧
      ¬(ifaceSize<(interface.name++[':']).length+1 ∨ interface.name++[':']=[]) := by
  have hshort := h.short
  have hnoNull : '\x00' ∉ interface.name++[':'] := by
    rw [List.mem_append,not_or]
    exact ⟨h.noNull,by decide⟩
  exact ⟨takeWhile_ne_of_not_mem hnoNull,not_or.mpr ⟨by omega,by simp⟩⟩

/-- Where numbers are, something follows what stands in front of them. -/
theorem exists_cons_of_numbers {fields : List (ℕ×Token)} {first : ℤ} {numbers : List ℤ}
    (h : List.Forall₂ (fun field number => Integer field.2 number) fields (first::numbers)) :
    ∃ field rest,fields=field::rest := by
  cases h with
  | cons => exact ⟨_,_,rfl⟩

section Lines

variable {netTags : Tags} (indeterminate : Locals) {interface : Interface} {line rest : Token}

/-- handle_line reads a line that begins after a line break, up to the next one. -/
theorem handleLine_line (hfits : interface.Fits) (hstorable : interface.Storable)
    (hline : IsLine interface line) (hiface : "iface".toList∉netTags)
    (hid : "id".toList∉netTags) (hrest : ∀ c∈rest.head?,c= '\n') :
    handleLine netTags indeterminate ⟨'\n'::line++rest,false⟩=
      .ok (⟨rest,rest.isEmpty⟩,interface.counters netTags) := by
  obtain ⟨lead,receive,transmit,hreceive,htransmit,rfl⟩ := hline
  have hspaces : ∀ c∈ '\n'::List.replicate lead ' ',isSpace c=true := by
    refine List.forall_mem_cons.mpr ⟨by decide,fun c hc => ?_⟩
    rw [List.eq_of_mem_replicate hc]
    decide
  obtain ⟨hname,hstored⟩ := hstorable.stored
  have hdigit : NoDigit rest := fun c hc => by rw [hrest c hc]; decide
  obtain ⟨first,receive',rfl⟩ := exists_cons_of_numbers hreceive
  obtain ⟨second,transmit',rfl⟩ := exists_cons_of_numbers htransmit
  have hshape : '\n'::(List.replicate lead ' '++(interface.name++[':'])++
      spread (first::receive')++spread (second::transmit'))++rest=
      ('\n'::List.replicate lead ' ')++((interface.name++[':'])++
        (spread (first::receive')++(spread (second::transmit')++rest))) := by
    simp only [List.append_assoc,List.cons_append]
  have hscanWord := scanWord_append hspaces hfits.visible (spread (first::receive')++
    (spread (second::transmit')++rest)) (by rintro c ⟨rfl⟩; decide) false
  have hscanReceive := scanLongs_spread hreceive hfits.receive (spread (second::transmit')++rest)
    (noDigit_cons.mpr (by decide))
  have hscanTransmit := scanLongs_spread htransmit hfits.transmit rest hdigit
  have hreceiveLength : interface.receive.toList.length=8 := rfl
  have htransmitLength : interface.transmit.toList.length=8 := rfl
  rw [hreceiveLength] at hscanReceive
  rw [htransmitLength] at hscanTransmit
  have hcounters := receiveCounters_append_transmitCounters hfits hiface hid
    { indeterminate with iface := interface.name } rfl
  rw [hshape,handleLine,hscanWord]
  dsimp only [readUpTo]
  rw [hname,if_neg hstored,List.dropLast_concat]
  have hmore : (spread (first::receive')++(spread (second::transmit')++rest)).isEmpty=false := rfl
  have hmore' : (spread (second::transmit')++rest).isEmpty=false := rfl
  rw [hmore,Bool.or_false,hscanReceive,hmore',Bool.and_false]
  dsimp only
  rw [handleTransmit,hscanTransmit]
  dsimp only
  rw [if_neg (by rw [Transmit.toList]; exact List.cons_ne_nil _ _),hcounters]
  rfl

/-- The loop reads the lines after the headers one after the other. -/
theorem ends_lines {interfaces : List Interface} {lines : List Token} (final : Bool)
    (hlines : List.Forall₂ IsLine interfaces lines)
    (hinterfaces : ∀ interface∈interfaces,interface.Fits ∧ interface.Storable)
    (hiface : "iface".toList∉netTags) (hid : "id".toList∉netTags) (published : List Counter) :
    Ends (linePass netTags indeterminate)
      (⟨linesAfter lines final,(linesAfter lines final).isEmpty⟩,published)
      (.ok (published++interfaces.flatMap (Interface.counters netTags))) := by
  induction hlines generalizing published with
  | nil =>
    rw [List.flatMap_nil,List.append_nil]
    cases final with
    | false => exact ends_of_result rfl
    | true =>
      -- the line break at the end takes a pass of its own
      have hpass : linePass netTags indeterminate (⟨['\n'],false⟩,published)=
          .inl (⟨[],true⟩,published++[]) := rfl
      rw [linesAfter,List.flatMap_nil,List.nil_append,if_pos rfl]
      refine (ends_pass_iff hpass).mpr ?_
      rw [List.append_nil]
      exact ends_of_result rfl
  | @cons interface line interfaces lines hline hlines ih =>
    obtain ⟨⟨hfits,hstorable⟩,hinterfaces⟩ := List.forall_mem_cons.mp hinterfaces
    have hshape : linesAfter (line::lines) final= '\n'::line++linesAfter lines final := by
      rw [linesAfter,linesAfter,List.flatMap_cons,List.append_assoc]
    have hpass : linePass netTags indeterminate
        (⟨'\n'::line++linesAfter lines final,false⟩,published)=
          .inl (⟨linesAfter lines final,(linesAfter lines final).isEmpty⟩,
            published++interface.counters netTags) := by
      rw [linePass,if_neg Bool.false_ne_true,handleLine_line indeterminate hfits hstorable hline
        hiface hid (head_linesAfter lines final)]
    rw [hshape,List.flatMap_cons,←List.append_assoc]
    exact (ends_pass_iff hpass).mpr (ih hinterfaces _)

end Lines

theorem laterThan_discardLine (file : InputFile) : LaterThan (discardLine file) file := by
  have hsuffix := List.dropWhile_suffix (l:=file.rest) fun c => decide (c≠ '\n')
  rw [discardLine]
  split
  · exact ⟨List.nil_suffix,fun _ => rfl⟩
  · next c rest hrest =>
    rw [hrest] at hsuffix
    exact ⟨(List.suffix_cons c rest).trans hsuffix,id⟩

/-- A line is discarded with its line break. -/
theorem discardLine_append {line : Token} (h : '\n' ∉ line) (rest : Token) :
    discardLine ⟨line++rest,false⟩=discardLine ⟨rest,false⟩ := by
  rw [discardLine,List.dropWhile_append_of_pos (decide_ne_of_not_mem h),discardLine]

/-- The loop starts after the two header lines; the line break of the second one
makes no difference. -/
theorem ends_discardLine_iff (netTags : Tags) (indeterminate : Locals) {header header' : Token}
    (hheader : '\n' ∉ header) (hheader' : '\n' ∉ header') (lines : List Token) (final : Bool)
    (result : Except MemoryFault (List Counter)) :
    NetworkStats netTags indeterminate (some (netDev header header' lines final)) result ↔
      Ends (linePass netTags indeterminate)
        (⟨linesAfter lines final,(linesAfter lines final).isEmpty⟩,[]) result := by
  have hfirst : discardLine (openFile (netDev header header' lines final))=
      ⟨header'++linesAfter lines final,false⟩ := by
    rw [openFile,netDev,List.append_assoc,discardLine_append hheader]
    rfl
  rw [NetworkStats,hfirst,discardLine_append hheader']
  cases hrest : linesAfter lines final with
  | nil => rfl
  | cons c rest =>
    obtain rfl := head_linesAfter lines final c (by rw [hrest]; rfl)
    have hpass : linePass netTags indeterminate (⟨rest,false⟩,[])=
        linePass netTags indeterminate (⟨'\n'::rest,false⟩,[]) := rfl
    exact ends_congr hpass

/-- network_stats ends without a fault on every file whose words fit into the
array exactly when no word that a pass reads as a name begins with a null
character, and of a file with interfaces on its lines it publishes their nine
values each, and nothing else. -/
theorem network_stats_ends_and_exact (netTags : Tags) (indeterminate : Locals) :
    (∀ text,ShortWords text →
      ((∃ counters,NetworkStats netTags indeterminate (some text) (.ok counters)) ↔
        ∀ s,Reached netTags indeterminate text s → s.1.eof=false → NameBegins s.1)) ∧
    ("iface".toList∉netTags → "id".toList∉netTags →
      ∀ (header header' : Token) (interfaces : List Interface) (lines : List Token) (final : Bool),
        '\n' ∉ header → '\n' ∉ header' → List.Forall₂ IsLine interfaces lines →
        (∀ interface∈interfaces,interface.Fits ∧ interface.Storable) →
        ∀ result,
          NetworkStats netTags indeterminate (some (netDev header header' lines final)) result ↔
            result=.ok (interfaces.flatMap (Interface.counters netTags))) := by
  constructor
  · intro text hshort
    have hlater := (laterThan_discardLine _).trans (laterThan_discardLine (openFile text))
    have hopen : ShortWords (openFile text).rest := hshort
    exact networkStats_ends_iff netTags indeterminate (hopen.later hlater)
  · intro hiface hid header header' interfaces lines final hheader hheader' hlines hinterfaces
      result
    have hends := ends_lines indeterminate final hlines hinterfaces hiface hid []
    rw [List.nil_append] at hends
    rw [ends_discardLine_iff netTags indeterminate hheader hheader']
    refine ⟨fun h => h.unique hends,?_⟩
    rintro rfl
    exact hends

/-- No number is known before the first scan. -/
def unset : Locals := ⟨[],0,0,0,0,0,0,0,0,0,0⟩

/-- The sixteen numbers of a line that counts up. -/
def countingInterface (name : Token) : Interface :=
  ⟨name,⟨1,2,3,4,5,6,7,8⟩,⟨9,10,11,12,13,14,15,16⟩⟩

/-- The fields of that line. -/
def countingLine (name : Token) : Token :=
  name++": 1 2 3 4 5 6 7 8 9 10 11 12 13 14 15 16".toList

theorem isLine_counting (name : Token) : IsLine (countingInterface name) (countingLine name) := by
  have hfields : ∀ numbers : List ℕ,
      List.Forall₂ (fun (field : ℕ×Token) (number : ℤ) => Integer field.2 number)
        (numbers.map fun n => (0,Nat.toDigits 10 n)) (numbers.map fun n : ℕ => (n : ℤ)) := by
    intro numbers
    rw [List.forall₂_map_left_iff,List.forall₂_map_right_iff]
    exact List.forall₂_same.mpr fun n _ => Integer.plain (decimal_toDigits n)
  have hreceive := hfields [1,2,3,4,5,6,7,8]
  have htransmit := hfields [9,10,11,12,13,14,15,16]
  refine ⟨0,_,_,hreceive,htransmit,?_⟩
  have htext : ": 1 2 3 4 5 6 7 8 9 10 11 12 13 14 15 16".toList=
      ':'::(spread ([1,2,3,4,5,6,7,8].map fun n => (0,Nat.toDigits 10 n))++
        spread ([9,10,11,12,13,14,15,16].map fun n => (0,Nat.toDigits 10 n))) := by
    decide +kernel
  rw [countingLine,htext]
  simp [countingInterface]

theorem counting_fits {name : Token} (h : ∀ c∈name,isSpace c=false) :
    (countingInterface name).Fits where
  noSpace := h
  receive := by simp [countingInterface,Receive.toList,FitsInt64]
  transmit := by simp [countingInterface,Transmit.toList,FitsInt64]
  receiveErrors := by simp [countingInterface,FitsInt64]
  transmitErrors := by simp [countingInterface,FitsInt64]

/-- A file with one interface. -/
theorem network_stats_ends_and_exact_counting (result : Except MemoryFault (List Counter)) :
    NetworkStats ∅ unset (some (netDev [] [] [countingLine "lo".toList] true)) result ↔
      result=.ok ((countingInterface "lo".toList).counters ∅) := by
  have h := (network_stats_ends_and_exact ∅ unset).2 (by decide) (by decide) [] []
    [countingInterface "lo".toList] [countingLine "lo".toList] true (by decide) (by decide)
    (.cons (isLine_counting _) .nil)
    (List.forall_mem_singleton.mpr
      ⟨counting_fits (noSpace_of_all (by decide)),⟨by decide,by decide⟩⟩) result
  rw [List.flatMap_singleton] at h
  exact h

/-- A null character in a name cuts the tag, and one in front of a word is a
write in front of the array. -/
theorem network_stats_null_character :
    let name := "a\x00b".toList
    let text := netDev [] [] [countingLine name] true
    (∀ c∈name,isSpace c=false) ∧ (countingInterface name).Fits ∧ ShortWords text ∧
      IsLine (countingInterface name) (countingLine name) ∧
      NetworkStats ∅ unset (some text) (.ok ((countingInterface []).counters ∅)) ∧
      ¬NetworkStats ∅ unset (some text) (.ok ((countingInterface name).counters ∅)) ∧
    ShortWords "\n\n\x00".toList ∧
      ∀ counters,¬NetworkStats ∅ unset (some "\n\n\x00".toList) (.ok counters) := by
  intro name text
  have hends : NetworkStats ∅ unset (some text) (.ok ((countingInterface []).counters ∅)) :=
    ⟨4,by decide +kernel⟩
  have hfault : NetworkStats ∅ unset (some "\n\n\x00".toList) (.error .outOfBounds) :=
    ⟨1,by decide +kernel⟩
  have hspace : ∀ c∈name,isSpace c=false := noSpace_of_all (by decide)
  refine ⟨hspace,counting_fits hspace,fun word hword _ => ?_,isLine_counting name,hends,
    fun h => ?_,fun word hword _ => ?_,fun counters h => ?_⟩
  · exact hword.length_le.trans_lt (by decide +kernel)
  · exact absurd (h.unique hends) (by decide +kernel)
  · exact hword.length_le.trans_lt (by decide)
  · cases h.unique hfault

end AtlasAgent.ProcNet
