import AtlasAgent.DiskstatsLines
import AtlasAgent.FileReaders
import AtlasAgent.KeyedUpdates
import AtlasAgent.ScanfText
import Mathlib.Tactic.MkIffOfInductiveProp

/-!
# parse_kv_from_file

The decoder of cpu.stat, memory.stat, memory.events, vmstat and net/snmp6. It
reads a file piece by piece with fgets and takes a key and a number from each
piece with sscanf. Where the lines are short enough to be pieces, the map it
fills is the former one updated by the lines, and a map that is printed one
entry a line is read back.
-/

namespace AtlasAgent.KvFile

open DecimalText DiskstatsLines KeyedUpdates NumberText ScanfText SpacedText TextFields
open FileReaders hiding parseKvFromFile

/-- parse_kv_from_file, which stores into a map that may have entries. -/
def parseKvFromFile (file : Option Token) (stats : Stats) : Stats :=
  match file with
  | none => stats
  | some text => (fgetsLoop [] text).foldl storeKeyValue stats

/-- Every line fits into the buffer with its line break, and none is cut off by
a null character. -/
def Readable (text : Token) : Prop := ∀ line∈getLines text,line.length<1023 ∧ '\x00' ∉ line

instance (text : Token) : Decidable (Readable text) :=
  inferInstanceAs (Decidable (∀ line∈getLines text,_))

/-- The token begins with a whole number, which ends where the digits end. -/
def BeginsWith (token : Token) (number : ℤ) : Prop :=
  ∃ text rest,Integer text number ∧ NoDigit rest ∧ token=text++rest

/-- The first word of the line is the key and the second one begins with a
number; the value is the nearest one that an int64_t has. -/
def Gives (line key : Token) (value : ℤ) : Prop :=
  ∃ token more number,words line=key::token::more ∧ BeginsWith token number ∧
    clampLong number=value

/-- The same for numbers that an int64_t has, and for no others. -/
def GivesInt64 (line key : Token) (value : ℤ) : Prop :=
  ∃ token more,words line=key::token::more ∧ BeginsWith token value ∧ FitsInt64 value

/-- What may stand between a key and its value on a line. -/
structure Gap (gap : Token) : Prop where
  nonempty : gap≠[]
  spaces : ∀ c∈gap,isSpace c=true
  oneLine : '\n' ∉ gap

/-- An entry on a line of its own, with a gap behind the key. -/
def gapLine (gap : Token) (entry : Σ _ : Token,ℤ) : Token := entry.1++(gap++intText entry.2)

/-- An entry with one blank behind the key. -/
def entryLine (entry : Σ _ : Token,ℤ) : Token := entry.1++ ' '::intText entry.2

/-- A map printed one entry a line, with one blank behind each key. -/
def print (stats : Stats) : Token := unlines (stats.entries.map entryLine)

/-- The same with a gap behind each key. -/
def printWith (gap : Token → Token) (stats : Stats) : Token :=
  unlines (stats.entries.map fun entry => gapLine (gap entry.1) entry)

/-- An entry that an unordered_map from std::string to int64_t can have, with a
key that is one word and a line that can be read. -/
@[mk_iff]
structure Printable (entry : Σ _ : Token,ℤ) : Prop where
  word : Visible entry.1
  noNull : '\x00' ∉ entry.1
  fits : FitsInt64 entry.2
  short : (entryLine entry).length<1023

/-- The same for an entry with a gap. -/
@[mk_iff]
structure PrintableWith (gap : Token) (entry : Σ _ : Token,ℤ) : Prop where
  word : Visible entry.1
  noNull : '\x00' ∉ entry.1
  fits : FitsInt64 entry.2
  short : (gapLine gap entry).length<1023

instance (entry : Σ _ : Token,ℤ) : Decidable (Printable entry) :=
  decidable_of_iff' _ (printable_iff entry)

instance (gap : Token) (entry : Σ _ : Token,ℤ) : Decidable (PrintableWith gap entry) :=
  decidable_of_iff' _ (printableWith_iff gap entry)

section Numbers

variable {token rest : Token} {number : ℤ}

/-- The digits of a text end where something else follows it. -/
theorem takeWhile_isDigit_append (text : Token) (hrest : NoDigit rest) :
    (text++rest).takeWhile Char.isDigit=text.takeWhile Char.isDigit := by
  induction text with
  | nil =>
    cases rest with
    | nil => rfl
    | cons c rest => exact List.takeWhile_cons_of_neg (by simp [noDigit_cons.mp hrest])
  | cons c text ih =>
    rw [List.cons_append,List.takeWhile_cons,List.takeWhile_cons,ih]

/-- A number is converted from the first word, without the words after it. -/
theorem scanSigned_append (h : Visible token) (hrest : ∀ c∈rest.head?,isSpace c=true) :
    scanSigned (token++rest)=scanSigned token := by
  have hdigit : NoDigit rest := fun c hc => by
    cases hd : c.isDigit with
    | false => rfl
    | true =>
      have hspace := hrest c hc
      rw [isSpace_of_isDigit hd] at hspace
      cases hspace
  rw [scanSigned,scanSigned,scanSign_append h.nonempty]
  dsimp only
  rw [takeWhile_isDigit_append _ hdigit]

/-- A token begins with the number that is converted. -/
theorem beginsWith_iff :
    BeginsWith token number ↔
      ∃ negative magnitude,scanSigned token=some (negative,magnitude) ∧
        signed negative magnitude=number := by
  constructor
  · rintro ⟨text,rest,hinteger,hrest,rfl⟩
    have hne := (visible_integer hinteger).nonempty
    obtain ⟨negative,digits,hsign,hdigits,hall,hvalue⟩ := integer_iff_scanSign.mp hinteger
    have hdecimal : Decimal digits (digitsValue digits) := ⟨hdigits,hall,rfl⟩
    refine ⟨negative,digitsValue digits,?_,hvalue⟩
    rw [scanSigned,scanSign_append hne,hsign]
    dsimp only
    rw [hdecimal.takeWhile_append hrest,if_neg hdigits]
  · rintro ⟨negative,magnitude,hscan,rfl⟩
    rw [scanSigned] at hscan
    dsimp only at hscan
    split_ifs at hscan with hdigits
    cases hscan
    -- the text of the number is the sign and the digits after it
    obtain ⟨sign,hsign⟩ := suffix_scanSign token
    have hbody := List.takeWhile_append_dropWhile (p:=Char.isDigit) (l:=(scanSign token).2)
    generalize hnumber : (scanSign token).2.takeWhile Char.isDigit=digits at hdigits hbody ⊢
    have hsplit : sign++digits++(scanSign token).2.dropWhile Char.isDigit=token := by
      rw [List.append_assoc,hbody,hsign]
    have hne : sign++digits≠[] := List.append_ne_nil_of_right_ne_nil _ hdigits
    have hscan := scanSign_append hne ((scanSign token).2.dropWhile Char.isDigit)
    rw [hsplit] at hscan
    have htext : (scanSign (sign++digits)).2=digits := by
      refine (List.append_left_inj ((scanSign token).2.dropWhile Char.isDigit)).mp ?_
      rw [hbody]
      exact (congrArg Prod.snd hscan).symm
    refine ⟨sign++digits,_,integer_iff_scanSign.mpr
      ⟨(scanSign token).1,digits,?_,hdigits,fun c hc => ?_,rfl⟩,?_,hsplit.symm⟩
    · exact Prod.ext (congrArg Prod.fst hscan).symm htext
    · rw [←hnumber] at hc
      exact List.mem_takeWhile_imp hc
    · intro c hc
      have hstop := List.head?_dropWhile_not Char.isDigit (scanSign token).2
      rw [hc] at hstop
      exact hstop

end Numbers

section Lines

variable {line key : Token} {value : ℤ}

/-- What %ld converts after the key is what the next word begins with. -/
theorem scanLong_eq_some_iff {text : Token} :
    scanLong text=some value ↔ ∃ token more number,words text=token::more ∧
      BeginsWith token number ∧ clampLong number=value := by
  rw [scanLong,scanInteger]
  obtain ⟨hskip,hwords⟩|⟨word,rest,hword,hrest,hskip,hwords⟩ := words_cases text
  · rw [hskip,hwords]
    simp [scanSigned,scanSign]
  · rw [hskip,hwords,scanSigned_append hword hrest]
    simp only [List.cons.injEq,beginsWith_iff,Option.map_eq_some_iff]
    constructor
    · rintro ⟨⟨negative,magnitude⟩,hscan,hvalue⟩
      exact ⟨word,words rest,_,⟨rfl,rfl⟩,⟨negative,magnitude,hscan,rfl⟩,hvalue⟩
    · rintro ⟨_,_,_,⟨rfl,rfl⟩,⟨negative,magnitude,hscan,rfl⟩,hvalue⟩
      exact ⟨(negative,magnitude),hscan,hvalue⟩

/-- One piece of a file stores what it gives. -/
theorem scanKeyValue_eq_some_iff (h : '\x00' ∉ line) :
    scanKeyValue line=some (key,value) ↔ Gives line key value := by
  rw [scanKeyValue,takeWhile_ne_of_not_mem h,Gives]
  obtain ⟨hskip,hwords⟩|⟨word,rest,hword,hrest,hskip,hwords⟩ := words_cases line
  · rw [hskip,hwords]
    simp
  · have htake := hword.takeWhile_append hrest
    have hdrop := hword.dropWhile_append hrest
    rw [hskip,hwords,htake,hdrop,if_neg hword.nonempty]
    simp only [Option.map_eq_some_iff,Prod.mk.injEq,scanLong_eq_some_iff,List.cons.injEq]
    constructor
    · rintro ⟨_,⟨token,more,number,hrest,hnumber,rfl⟩,rfl,rfl⟩
      exact ⟨token,more,number,⟨rfl,hrest⟩,hnumber,rfl⟩
    · rintro ⟨token,more,number,⟨rfl,hrest⟩,hnumber,rfl⟩
      exact ⟨_,⟨token,more,number,hrest,hnumber,rfl⟩,rfl,rfl⟩

/-- The line break at the end of a piece is a space like others. -/
theorem storeKeyValue_newline (h : '\x00' ∉ line) (stats : Stats) :
    storeKeyValue stats (line++['\n'])=storeKeyValue stats line := by
  have hline : '\x00' ∉ line++['\n'] := by
    rw [List.mem_append,not_or]
    exact ⟨h,by decide⟩
  have hwords : words (line++['\n'])=words line := by
    rw [words_append_cons rfl line []]
    exact List.append_nil _
  have hscan : scanKeyValue (line++['\n'])=scanKeyValue line := by
    refine Option.ext fun entry => ?_
    obtain ⟨key,value⟩ := entry
    rw [scanKeyValue_eq_some_iff hline,scanKeyValue_eq_some_iff h,Gives,Gives,hwords]
  rw [storeKeyValue,storeKeyValue,hscan]

/-- Storing a line updates the map by what the line gives. -/
theorem updated_storeKeyValue (h : '\x00' ∉ line) (stats : Stats) :
    Updated Gives [line] (fun key => stats.lookup key)
      (fun key => (storeKeyValue stats line).lookup key) := by
  intro key value
  simp only [lastGiven_singleton,List.mem_singleton,forall_eq,←scanKeyValue_eq_some_iff h]
  rw [storeKeyValue]
  cases hscan : scanKeyValue line with
  | none => simp
  | some entry =>
    obtain ⟨stored,number⟩ := entry
    dsimp only
    by_cases hkey : key=stored
    · rw [hkey,AList.lookup_insert]
      simp
    · rw [AList.lookup_insert_ne hkey]
      simp [Ne.symm hkey]

end Lines

section Files

variable {text : Token}

/-- fgets with the buffer of this file. -/
theorem fgetsLoop_eq (text : Token) :
    ∀ buffer,fgetsLoop buffer text=fgetsAll 1023 buffer text := by
  induction text with
  | nil => exact fun _ => rfl
  | cons c text ih =>
    intro buffer
    rw [fgetsLoop,fgetsAll,ih,ih,bufferChars]

/-- Short lines are read one at a time. -/
theorem foldl_fgetsLoop (h : Readable text) (stats : Stats) :
    (fgetsLoop [] text).foldl storeKeyValue stats=
      (getLines text).foldl storeKeyValue stats := by
  obtain ⟨lines,last,hlines,hlast,rfl⟩ := exists_unlines text
  have hpieces : (∀ line∈lines,line.length<1023 ∧ '\x00' ∉ line) →
      (lines.map (·++['\n'])).foldl storeKeyValue stats=lines.foldl storeKeyValue stats := by
    intro hread
    rw [List.foldl_map]
    exact List.foldl_ext _ _ _ fun stats line hmem => storeKeyValue_newline (hread line hmem).2 stats
  rw [fgetsLoop_eq]
  by_cases hne : last=[]
  · rw [Readable,hne,List.append_nil,getLines_unlines hlines] at h
    rw [hne,List.append_nil,getLines_unlines hlines,
      fgetsAll_unlines fun line hmem => ⟨hlines line hmem,(h line hmem).1⟩,hpieces h]
  · rw [Readable,getLines_unlines_append hlines hlast hne,List.forall_mem_append] at h
    obtain ⟨h,hshort⟩ := h
    have hroom : ([] : Token).length+last.length<1023 := by
      simpa using (hshort last List.mem_cons_self).1
    rw [getLines_unlines_append hlines hlast hne,
      fgetsAll_unlines_append fun line hmem => ⟨hlines line hmem,(h line hmem).1⟩,
      fgetsAll_last hlast [] hroom hne,List.foldl_append,List.foldl_append,hpieces h]
    rfl

/-- The map after a file is the one before updated by the lines. -/
theorem updated_parseKvFromFile (h : Readable text) (stats : Stats) :
    Updated Gives (getLines text) (fun key => stats.lookup key)
      (fun key => (parseKvFromFile (some text) stats).lookup key) := by
  rw [parseKvFromFile,foldl_fgetsLoop h]
  exact updated_foldl (fun (stats : Stats) key => stats.lookup key)
    (fun line hmem stats => updated_storeKeyValue (h line hmem).2 stats) stats

/-- A line break at the end is no matter, or it ends an empty line. -/
theorem parseKvFromFile_newline (h : Readable text) (stats : Stats) :
    parseKvFromFile (some (text++['\n'])) stats=parseKvFromFile (some text) stats := by
  obtain ⟨lines,last,hlines,hlast,rfl⟩ := exists_unlines text
  have hall : ∀ line∈lines++[last],'\n' ∉ line :=
    List.forall_mem_append.mpr ⟨hlines,by simpa using hlast⟩
  have htext : unlines lines++last++['\n']=unlines (lines++[last]) := by simp [unlines]
  by_cases hne : last=[]
  · have hread : Readable (unlines lines++last++['\n']) := by
      rw [Readable,hne,List.append_nil,getLines_unlines hlines] at h
      rw [Readable,htext,getLines_unlines hall,List.forall_mem_append,hne]
      exact ⟨h,by simp⟩
    rw [parseKvFromFile,parseKvFromFile,foldl_fgetsLoop hread,foldl_fgetsLoop h,htext,
      getLines_unlines hall,hne,List.append_nil,getLines_unlines hlines,List.foldl_append]
    rfl
  · have hsame : getLines (unlines lines++last++['\n'])=getLines (unlines lines++last) := by
      rw [htext,getLines_unlines hall,getLines_unlines_append hlines hlast hne]
    have hread : Readable (unlines lines++last++['\n']) := by rwa [Readable,hsame]
    rw [parseKvFromFile,parseKvFromFile,foldl_fgetsLoop hread,foldl_fgetsLoop h,hsame]

end Files

section Print

/-- An int in decimal digits is read as it is. -/
theorem integer_intText (value : ℤ) : Integer (intText value) value := by
  have hdecimal := decimal_toDigits value.natAbs
  rw [intText]
  split_ifs with hsign
  · have hminus := Integer.minus hdecimal
    rwa [show -(value.natAbs : ℤ)=value by omega] at hminus
  · have hplain := Integer.plain hdecimal
    rwa [show (value.natAbs : ℤ)=value by omega] at hplain

/-- The number that a token begins with is the only one. -/
theorem BeginsWith.unique {token : Token} {number other : ℤ} (h : BeginsWith token number)
    (hother : BeginsWith token other) : number=other := by
  obtain ⟨negative,magnitude,hscan,rfl⟩ := beginsWith_iff.mp h
  obtain ⟨negative',magnitude',hscan',rfl⟩ := beginsWith_iff.mp hother
  rw [hscan] at hscan'
  cases hscan'
  rfl

variable {entry : Σ _ : Token,ℤ} {gap : Token}

/-- A line with a gap has two words. -/
theorem words_gapLine (hgap : Gap gap) (h : PrintableWith gap entry) :
    words (gapLine gap entry)=[entry.1,intText entry.2] := by
  have hvalue := visible_integer (integer_intText entry.2)
  obtain ⟨c,more,rfl⟩ := List.exists_cons_of_ne_nil hgap.nonempty
  obtain ⟨hc,hmore⟩ := List.forall_mem_cons.mp hgap.spaces
  have hhead : ∀ c∈(intText entry.2++[]).head?,isSpace c=false := hvalue.head
  rw [List.append_nil] at hhead
  rw [gapLine,List.cons_append,words_append_cons hc,h.word.words_eq,←words_skipSpace,
    skipSpace_append hmore hhead,hvalue.words_eq]
  rfl

/-- The line of an entry gives its key the value and nothing else. -/
theorem gives_gapLine (hgap : Gap gap) (h : PrintableWith gap entry) {key : Token} {value : ℤ} :
    Gives (gapLine gap entry) key value ↔ (entry.1,entry.2)=(key,value) := by
  have hbegins : BeginsWith (intText entry.2) entry.2 :=
    ⟨_,[],integer_intText entry.2,noDigit_nil,(List.append_nil _).symm⟩
  rw [Gives,words_gapLine hgap h,Prod.mk.injEq]
  constructor
  · rintro ⟨token,more,number,hline,hnumber,rfl⟩
    obtain ⟨hkey,htoken⟩ := List.cons.inj hline
    rw [←(List.cons.inj htoken).1] at hnumber
    rw [hnumber.unique hbegins,clampLong_of_fits h.fits]
    exact ⟨hkey,rfl⟩
  · rintro ⟨rfl,rfl⟩
    exact ⟨_,_,_,rfl,hbegins,clampLong_of_fits h.fits⟩

theorem break_not_mem_gapLine (hgap : Gap gap) (h : PrintableWith gap entry) :
    '\n' ∉ gapLine gap entry := by
  rw [gapLine,List.mem_append,List.mem_append,not_or,not_or]
  exact ⟨h.word.not_mem rfl,hgap.oneLine,(visible_integer (integer_intText _)).not_mem rfl⟩

theorem null_not_mem_gapLine (hgap : Gap gap) (h : PrintableWith gap entry) :
    '\x00' ∉ gapLine gap entry := by
  have hdigits : ∀ n : ℕ,'\x00' ∉ Nat.toDigits 10 n := fun n hmem => by
    have hdigit := (decimal_toDigits n).digits _ hmem
    exact absurd hdigit (by decide)
  have hvalue : '\x00' ∉ intText entry.2 := by
    rw [intText]
    split_ifs
    · rw [List.mem_cons,not_or]
      exact ⟨by decide,hdigits _⟩
    · exact hdigits _
  rw [gapLine,List.mem_append,List.mem_append,not_or,not_or]
  exact ⟨h.noNull,fun hmem => absurd (hgap.spaces _ hmem) (by decide),hvalue⟩

/-- A map that is written one entry a line is read back, entry by entry. -/
theorem lookup_parseKvFromFile_printWith {gap : Token → Token} (hgap : ∀ key,Gap (gap key))
    {stats : Stats} (h : ∀ entry∈stats.entries,PrintableWith (gap entry.1) entry) (key : Token) :
    (parseKvFromFile (some (printWith gap stats)) ∅).lookup key=stats.lookup key := by
  let line := fun entry : Σ _ : Token,ℤ => gapLine (gap entry.1) entry
  have hlines : getLines (printWith gap stats)=stats.entries.map line :=
    getLines_unlines fun text hmem => by
      obtain ⟨entry,hentry,rfl⟩ := List.mem_map.mp hmem
      exact break_not_mem_gapLine (hgap entry.1) (h entry hentry)
  have hread : Readable (printWith gap stats) := by
    rw [Readable,hlines,List.forall_mem_map]
    exact fun entry hentry =>
      ⟨(h entry hentry).short,null_not_mem_gapLine (hgap entry.1) (h entry hentry)⟩
  have hupdated := updated_parseKvFromFile hread ∅
  simp only [hlines,AList.lookup_empty] at hupdated
  -- the items are the lines of the pairs of key and value
  let pairs : List (Token×ℤ) := stats.entries.map fun entry => (entry.1,entry.2)
  have hitems : stats.entries.map line=pairs.map fun pair => line ⟨pair.1,pair.2⟩ := by
    rw [List.map_map]
    rfl
  have hgives : ∀ pair∈pairs,∀ key value,
      Gives (line ⟨pair.1,pair.2⟩) key value ↔ pair=(key,value) := by
    intro pair hpair key value
    obtain ⟨entry,hentry,rfl⟩ := List.mem_map.mp hpair
    exact gives_gapLine (hgap entry.1) (h entry hentry)
  have hdistinct : (pairs.map Prod.fst).Nodup := by
    rw [List.map_map]
    exact stats.nodupKeys
  rw [hitems] at hupdated
  refine Option.ext fun value => ?_
  rw [Updated.eq_some_iff_mem hupdated hgives hdistinct,List.mem_map,←Option.mem_def,
    AList.mem_lookup_iff]
  constructor
  · rintro ⟨entry,hentry,hpair⟩
    cases hpair
    exact hentry
  · exact fun hentry => ⟨_,hentry,rfl⟩

theorem gap_blank : Gap [' '] :=
  ⟨by decide,List.forall_mem_singleton.mpr (by decide),by decide⟩

/-- A printed map is read back. -/
theorem lookup_parseKvFromFile_print {stats : Stats} (h : ∀ entry∈stats.entries,Printable entry)
    (key : Token) : (parseKvFromFile (some (print stats)) ∅).lookup key=stats.lookup key := by
  have hentries : ∀ entry∈stats.entries,PrintableWith [' '] entry := fun entry hentry =>
    ⟨(h entry hentry).word,(h entry hentry).noNull,(h entry hentry).fits,(h entry hentry).short⟩
  exact lookup_parseKvFromFile_printWith (fun _ => gap_blank) hentries key

end Print

/-- Whatever the map holds before, for every key the last line that gives it a
number decides and the other lines change nothing, and neither does a line break
at the end; so a map that is printed is read back. -/
theorem parseKvFromFile_lastLine :
    (∀ (text : Token) (stats : Stats),Readable text →
      Updated Gives (getLines text) (fun key => stats.lookup key)
          (fun key => (parseKvFromFile (some text) stats).lookup key) ∧
        parseKvFromFile (some (text++['\n'])) stats=parseKvFromFile (some text) stats) ∧
    ∀ stats : Stats,(∀ entry∈stats.entries,Printable entry) →
      ∀ key,(parseKvFromFile (some (print stats)) ∅).lookup key=stats.lookup key :=
  ⟨fun _ stats h => ⟨updated_parseKvFromFile h stats,parseKvFromFile_newline h stats⟩,
    fun _ h => lookup_parseKvFromFile_print h⟩

/-- A key that is there before, one that is given twice, a blank line and lines
that give nothing. -/
def throttledStat : Token :=
  "nr_periods 1\n\nnr_throttled\nuser_usec x\n  nr_periods\t-7us 9\nusage_usec +12".toList

/-- The rule at that file, and at a map with a negative value. -/
theorem parseKvFromFile_lastLine_throttledStat :
    let before : Stats := ((∅ : Stats).insert "user_usec".toList 3).insert "usage_usec".toList 4
    let after := parseKvFromFile (some throttledStat) before
    LastGiven Gives (getLines throttledStat) "nr_periods".toList (-7) ∧
      after.lookup "user_usec".toList=some 3 ∧
      parseKvFromFile (some (throttledStat++['\n'])) before=after ∧
      (parseKvFromFile (some (print ((∅ : Stats).insert ['a'] (-5)))) ∅).lookup ['a']=
        some (-5) := by
  intro before after
  have hread : Readable throttledStat := by decide +kernel
  have hentry : ∀ entry∈((∅ : Stats).insert ['a'] (-5)).entries,Printable entry := by
    intro entry hmem
    rw [AList.entries_insert_of_notMem (AList.notMem_empty _)] at hmem
    obtain rfl := List.mem_singleton.mp hmem
    exact ⟨⟨by decide,noSpace_of_all (by decide)⟩,by decide,⟨by decide,by decide⟩,by decide⟩
  obtain ⟨hupdated,hnewline⟩ := parseKvFromFile_lastLine.1 throttledStat before hread
  have hprint := parseKvFromFile_lastLine.2 _ hentry ['a']
  have hperiods : after.lookup "nr_periods".toList=some (-7) := by decide +kernel
  have huser : after.lookup "user_usec".toList=some 3 := by decide +kernel
  have hnone : before.lookup "nr_periods".toList=none := by decide +kernel
  refine ⟨?_,huser,hnewline,hprint.trans (AList.lookup_insert _)⟩
  obtain hlast|⟨hbefore,-⟩ := (hupdated "nr_periods".toList (-7)).mp hperiods
  · exact hlast
  · exact absurd (hnone.symm.trans hbefore) (by decide)

/-- A number that an int64_t does not have is stored as its limit, which is no
number the token begins with; and a key with a null character, or too long for
the buffer, is not read back. -/
theorem parseKvFromFile_past_int64 :
    let number := "9223372036854775808".toList
    let text := "a ".toList++number
    let after := fun key => (parseKvFromFile (some text) ∅).lookup key
    let nullKey : Stats := (∅ : Stats).insert ['a','\x00'] 1
    let longKey : Stats := (∅ : Stats).insert (List.replicate 1023 'a') 1
    (Readable text ∧ ¬Updated GivesInt64 (getLines text) (fun _ => none) after ∧
      after ['a']=some (2^63-1) ∧
      ∀ front value,front <+: number → Integer front value → value≠2^63-1) ∧
    (Visible ['a','\x00'] ∧
      (parseKvFromFile (some (print nullKey)) ∅).lookup ['a','\x00']≠
        nullKey.lookup ['a','\x00']) ∧
    (Visible (List.replicate 1023 'a') ∧
      (parseKvFromFile (some (print longKey)) ∅).lookup (List.replicate 1023 'a')≠
        longKey.lookup (List.replicate 1023 'a')) := by
  intro number text after nullKey longKey
  have hread : Readable text := by decide +kernel
  have hlines : getLines text=[text] := by decide +kernel
  have hwords : words text=[['a'],number] := by decide +kernel
  have hafter : after ['a']=some (2^63-1) := by decide +kernel
  have hbegins : BeginsWith number 9223372036854775808 :=
    beginsWith_iff.mpr ⟨false,9223372036854775808,by decide +kernel,rfl⟩
  have hfronts : ∀ front∈number.inits,digitsValue front≠2^63-1 ∧ front.head?≠some '+' ∧
      front.head?≠some '-' := by decide +kernel
  refine ⟨⟨hread,fun hupdated => ?_,hafter,fun front value hfront hinteger => ?_⟩,
    ⟨⟨by decide,noSpace_of_all (by decide)⟩,by decide +kernel⟩,
    ⟨⟨by decide,noSpace_of_all (by decide +kernel)⟩,by decide +kernel⟩⟩
  · obtain ⟨_,line,_,hsplit,⟨token,more,hline,hgiven,-⟩,-⟩|⟨hnone,-⟩ := (hupdated _ _).mp hafter
    · have hmem : line∈getLines text := by
        rw [hsplit]
        simp
      rw [hlines,List.mem_singleton] at hmem
      rw [hmem,hwords] at hline
      obtain ⟨-,htoken⟩ := List.cons.inj hline
      rw [←(List.cons.inj htoken).1] at hgiven
      exact absurd (hgiven.unique hbegins) (by decide)
    · cases hnone
  · obtain ⟨hvalue,hplus,hminus⟩ := hfronts front ((List.mem_inits _ _).mpr hfront)
    cases hinteger with
    | plain h =>
      rw [h.value_eq] at hvalue
      exact fun heq => hvalue (by omega)
    | plus h => exact absurd rfl hplus
    | minus h => exact absurd rfl hminus

end AtlasAgent.KvFile
