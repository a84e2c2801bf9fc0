import AtlasAgent.NetTokens
import Mathlib.Tactic.MkIffOfInductiveProp

/-!
# The columns of net/netstat

The line that begins with IpExt: names columns and the next line fills them.
What netstat_stats publishes is a function of the values under four names, so
the order of the columns does not matter and neither do further ones.
-/

namespace AtlasAgent.NetstatColumns

open DecimalText IndexedColumns MountPoints NetTokens ProcNet ScanfText TextFields

/-- A content of net/netstat with a header line and a line of values. -/
structure NetstatFile where
  /-- The lines in front of the header, with their line breaks. -/
  before : Token
  header : Token
  values : Token
  /-- What follows the values, from the line break on. -/
  after : Token

namespace NetstatFile

/-- The content. -/
def text (file : NetstatFile) : Token :=
  file.before++(file.header++ '\n'::(file.values++file.after))

/-- The columns, the name of the lines included. -/
def columns (file : NetstatFile) : List (Token×Token) :=
  (tokens file.header).zip (tokens file.values)

/-- The header is the first line with IpExt:, its names are distinct, and the
line after it has as many tokens; fgets has room for both. -/
@[mk_iff]
structure WellFormed (file : NetstatFile) : Prop where
  lineStart : file.before=[] ∨ file.before.getLast?=some '\n'
  first : ¬ipExt <:+: file.before
  label : ipExt <+: file.header
  headerLine : '\n' ∉ file.header
  valuesLine : '\n' ∉ file.values
  valuesThere : file.values++file.after≠[]
  lineEnd : file.after=[] ∨ file.after.head?=some '\n'
  headerShort : file.header.length<1023
  valuesShort : file.values.length<1023
  distinct : (tokens file.header).Nodup
  sameCount : (tokens file.values).length=(tokens file.header).length

instance (file : NetstatFile) : Decidable file.WellFormed :=
  decidable_of_iff' _ (wellFormed_iff file)

end NetstatFile

/-- The value of a name: the numeral in its column, or zero where it has no
column with a numeral. -/
def HasValue (columns : List (Token×Token)) (name : Token) (value : ℤ) : Prop :=
  (∃ token,(name,token)∈columns ∧ Numeral token value) ∨
    value=0 ∧ ∀ token,(name,token)∈columns → ∀ number,¬Numeral token number

/-- to_int64 of what is found under a name, zero without a column. -/
def columnValue (columns : List (Token×Token)) (name : Token) : ℤ :=
  ((columns.lookup name).map toInt64).getD 0

/-- What one pass with a value makes of the variables. -/
def assign (ecn : Ecn) (column : Token×Token) : Ecn :=
  (headerPass ecn column.1 (some column.2)).getD ecn

theorem headerPass_some (ecn : Ecn) (name value : Token) :
    headerPass ecn name (some value)=some (assign ecn (name,value)) := by
  have hnext : ∃ next,headerPass ecn name (some value)=some next := by
    rw [headerPass]
    split_ifs <;> exact ⟨_,rfl⟩
  obtain ⟨next,hnext⟩ := hnext
  rw [assign,hnext]
  rfl

section Columns

variable {columns : List (Token×Token)} {name : Token}

/-- With distinct names the number that is found is the value of the name. -/
theorem hasValue_iff (h : (columns.map Prod.fst).Nodup) {value : ℤ} :
    HasValue columns name value ↔ columnValue columns name=value := by
  rw [HasValue,columnValue]
  simp only [←lookup_eq_some_iff_mem h]
  cases columns.lookup name with
  | none => simp [eq_comm]
  | some token =>
    rw [Option.map_some,Option.getD_some,toInt64]
    cases hnumber : simpleAtoi token with
    | none =>
      have hnot : ∀ number,¬Numeral token number := fun number hnumeral => by
        rw [simpleAtoi_eq_some_iff.mpr hnumeral] at hnumber
        cases hnumber
      simp [hnot,eq_comm]
    | some number =>
      have hnumeral : ∀ {value},Numeral token value ↔ number=value := by
        intro value
        rw [←simpleAtoi_eq_some_iff,hnumber,Option.some_inj]
      simp [hnumeral]

theorem columnValue_cons (key value : Token) (columns : List (Token×Token)) (name : Token) :
    columnValue ((key,value)::columns) name=
      if name=key then toInt64 value else columnValue columns name := by
  rw [columnValue,List.lookup_cons]
  split_ifs with hname
  · rw [hname,beq_self_eq_true]
    rfl
  · rw [beq_eq_false_iff_ne.mpr hname]
    rfl

theorem columnValue_eq_zero (h : name∉columns.map Prod.fst) : columnValue columns name=0 := by
  rw [columnValue,lookup_eq_none h]
  rfl

/-- A pass sets the number of one name. -/
theorem assign_noEct (ecn : Ecn) (key value : Token) :
    (assign ecn (key,value)).noEct=
      if key="InNoECTPkts".toList then toInt64 value else ecn.noEct := by
  rw [assign,headerPass]
  by_cases hnoEct : key="InNoECTPkts".toList
  · rw [if_pos hnoEct,if_pos hnoEct]
    rfl
  · rw [if_neg hnoEct,if_neg hnoEct]
    split_ifs <;> rfl

theorem assign_congested (ecn : Ecn) (key value : Token) :
    (assign ecn (key,value)).congested=
      if key="InCEPkts".toList then toInt64 value else ecn.congested := by
  rw [assign,headerPass]
  by_cases hcongested : key="InCEPkts".toList
  · have hnoEct : ¬key="InNoECTPkts".toList := by rw [hcongested]; decide
    have hect : ¬(key="InECT1Pkts".toList ∨ key="InECT0Pkts".toList) := by
      rw [hcongested]
      decide
    rw [if_neg hnoEct,if_neg hect,if_pos hcongested,if_pos hcongested]
    rfl
  · rw [if_neg hcongested,if_neg hcongested]
    split_ifs <;> rfl

theorem noEct_foldl (h : (columns.map Prod.fst).Nodup) (ecn : Ecn) :
    (columns.foldl assign ecn).noEct=
      ((columns.lookup "InNoECTPkts".toList).map toInt64).getD ecn.noEct :=
  foldl_eq_lookup (fun s value => (assign_noEct s _ value).trans (if_pos rfl))
    (fun s column hname => (assign_noEct s column.1 column.2).trans (if_neg hname)) h ecn

theorem congested_foldl (h : (columns.map Prod.fst).Nodup) (ecn : Ecn) :
    (columns.foldl assign ecn).congested=
      ((columns.lookup "InCEPkts".toList).map toInt64).getD ecn.congested :=
  foldl_eq_lookup (fun s value => (assign_congested s _ value).trans (if_pos rfl))
    (fun s column hname => (assign_congested s column.1 column.2).trans (if_neg hname)) h ecn

theorem addInt64_assoc (a b c : ℤ) : addInt64 (addInt64 a b) c=addInt64 a (b+c) := by
  rw [addInt64,addInt64,Int.bmod_add_bmod,add_assoc]
  rfl

theorem fits_addInt64 (a b : ℤ) : FitsInt64 (addInt64 a b) := by
  have hlow := Int.le_bmod (x:=a+b) (m:=NumberText.size64) (by decide)
  have hhigh := Int.bmod_lt (x:=a+b) (m:=NumberText.size64) (by decide)
  simp only [NumberText.size64] at hlow hhigh
  simp only [FitsInt64,addInt64,NumberText.size64]
  omega

/-- Only the columns of the two names change the sum. -/
theorem assign_ect (ecn : Ecn) (key value : Token) :
    (assign ecn (key,value)).ect=
      if key="InECT0Pkts".toList ∨ key="InECT1Pkts".toList then addInt64 ecn.ect (toInt64 value)
      else ecn.ect := by
  rw [assign,headerPass]
  by_cases hnoEct : key="InNoECTPkts".toList
  · rw [if_pos hnoEct,if_neg (by rw [hnoEct]; decide)]
    rfl
  · rw [if_neg hnoEct]
    by_cases hect : key="InECT1Pkts".toList ∨ key="InECT0Pkts".toList
    · rw [if_pos hect,if_pos hect.symm]
      rfl
    · have hnot : ¬(key="InECT0Pkts".toList ∨ key="InECT1Pkts".toList) := fun h => hect h.symm
      rw [if_neg hect,if_neg hnot]
      split_ifs <;> rfl

theorem fits_ect_foldl {ecn : Ecn} (hfits : FitsInt64 ecn.ect) (columns : List (Token×Token)) :
    FitsInt64 (columns.foldl assign ecn).ect := by
  induction columns generalizing ecn with
  | nil => exact hfits
  | cons column columns ih =>
    refine ih ?_
    rw [assign_ect]
    split_ifs
    · exact fits_addInt64 _ _
    · exact hfits

/-- The loop adds the values of the two names to the sum, with wrap around. -/
theorem addInt64_ect_foldl (h : (columns.map Prod.fst).Nodup) (ecn : Ecn) :
    addInt64 (columns.foldl assign ecn).ect 0=addInt64 ecn.ect
      (columnValue columns "InECT0Pkts".toList+columnValue columns "InECT1Pkts".toList) := by
  induction columns generalizing ecn with
  | nil => rfl
  | cons column columns ih =>
    obtain ⟨key,value⟩ := column
    rw [List.map_cons,List.nodup_cons] at h
    obtain ⟨hkey,hrest⟩ := h
    rw [List.foldl_cons,ih hrest,assign_ect,columnValue_cons,columnValue_cons]
    by_cases hect0 : key="InECT0Pkts".toList
    · subst hect0
      rw [if_pos (.inl rfl),if_pos rfl,if_neg (by decide),columnValue_eq_zero hkey,zero_add,
        addInt64_assoc]
    · rw [if_neg (Ne.symm hect0)]
      by_cases hect1 : key="InECT1Pkts".toList
      · subst hect1
        rw [if_pos (.inr rfl),if_pos rfl,columnValue_eq_zero hkey,add_zero,addInt64_assoc,
          add_comm (toInt64 value)]
      · rw [if_neg (not_or.mpr ⟨hect0,hect1⟩),if_neg (Ne.symm hect1)]

/-- The variables after the loop. -/
theorem foldl_assign_eq (h : (columns.map Prod.fst).Nodup)
    (hsum : FitsInt64
      (columnValue columns "InECT0Pkts".toList+columnValue columns "InECT1Pkts".toList)) :
    columns.foldl assign ⟨0,0,0⟩=
      ⟨columnValue columns "InNoECTPkts".toList,
        columnValue columns "InECT0Pkts".toList+columnValue columns "InECT1Pkts".toList,
        columnValue columns "InCEPkts".toList⟩ := by
  have hzero : FitsInt64 (⟨0,0,0⟩ : Ecn).ect := by decide
  have hfits := fits_ect_foldl hzero columns
  have htotal := addInt64_ect_foldl h ⟨0,0,0⟩
  rw [addInt64_eq (by rwa [add_zero]),addInt64_eq (by rwa [zero_add]),add_zero,zero_add] at htotal
  have hnoEct := noEct_foldl h ⟨0,0,0⟩
  have hcongested := congested_foldl h ⟨0,0,0⟩
  generalize columns.foldl assign ⟨0,0,0⟩=ecn at htotal hnoEct hcongested
  obtain ⟨noEct,ect,congested⟩ := ecn
  exact congr (congr (congrArg Ecn.mk hnoEct) htotal) hcongested

end Columns

/-- A line break at the end of a line leaves no token. -/
theorem tokens_newline (line : Token) : tokens (line++['\n'])=tokens line := by
  have hcStr : cStr (line++['\n'])=cStr line ∨ cStr (line++['\n'])=cStr line++['\n'] := by
    rw [cStr,List.takeWhile_append]
    split_ifs with hall
    · right
      rw [cStr,List.IsPrefix.eq_of_length (List.takeWhile_prefix _) hall]
      rfl
    · exact .inl rfl
  rw [tokens,tokens]
  obtain hcStr|hcStr := hcStr
  · rw [hcStr]
  · rw [hcStr,List.splitOnP_append_cons _ [] (by decide),List.filter_append]
    simp

namespace NetstatFile

variable {file other : NetstatFile} {extra : List (Token×Token)}

/-- One call reads the values. -/
theorem WellFormed.values_read (h : file.WellFormed) :
    ∃ line rest,bufferedLines (file.values++file.after)=line::rest ∧
      tokens line=tokens file.values := by
  have hshort : ([] : Token).length+file.values.length<1023 := by simpa using h.valuesShort
  obtain hafter|hafter := h.lineEnd
  · have hne := h.valuesThere
    rw [hafter] at hne ⊢
    rw [List.append_nil] at hne ⊢
    exact ⟨file.values,[],fgetsAll_last h.valuesLine [] hshort hne,rfl⟩
  · obtain ⟨after,hafter⟩ := List.head?_eq_some_iff.mp hafter
    rw [hafter]
    exact ⟨_,_,fgetsAll_append h.valuesLine after [] hshort,tokens_newline file.values⟩

/-- What is read in front of the header does not begin with its label. -/
theorem WellFormed.before_read (h : file.WellFormed) (rest : Token) :
    ∃ pieces,bufferedLines (file.before++rest)=pieces++bufferedLines rest ∧
      ∀ piece∈pieces,(!startsWith piece ipExt)=true := by
  obtain hnil|hlast := h.lineStart
  · exact ⟨[],by rw [hnil]; rfl,by simp⟩
  · obtain ⟨init,hinit⟩ := List.getLast?_eq_some_iff.mp hlast
    refine ⟨fgetsAll 1023 [] (init++['\n']),?_,fun piece hpiece => ?_⟩
    · rw [hinit,List.append_assoc,List.singleton_append,bufferedLines,fgetsAll_lineBreak]
      rfl
    · have hpart := infix_of_mem_fgetsAll [] hpiece
      rw [List.nil_append,←hinit] at hpart
      cases hstart : startsWith piece ipExt with
      | false => rfl
      | true =>
        have hlabel := (startsWith_iff (by decide)).mp hstart
        exact absurd (hlabel.isInfix.trans hpart) h.first

/-- The reading of a content comes to its header and the values after it. -/
theorem WellFormed.fromHeader_text (h : file.WellFormed) :
    ∃ line rest,fromHeader file.text=(file.header++['\n'])::line::rest ∧
      tokens line=tokens file.values := by
  obtain ⟨line,rest,hvalues,htokens⟩ := h.values_read
  obtain ⟨pieces,hbefore,hpieces⟩ := h.before_read (file.header++ '\n'::(file.values++file.after))
  have hroom : ([] : Token).length+file.header.length<1023 := by simpa using h.headerShort
  have hheader : bufferedLines (file.header++ '\n'::(file.values++file.after))=
      (file.header++['\n'])::bufferedLines (file.values++file.after) :=
    fgetsAll_append h.headerLine _ [] hroom
  have hlabel : startsWith (file.header++['\n']) ipExt=true :=
    (startsWith_iff (by decide)).mpr (h.label.trans (List.prefix_append _ _))
  refine ⟨line,rest,?_,htokens⟩
  rw [fromHeader,text,hbefore,hheader,hvalues,List.dropWhile_append_of_pos hpieces,
    List.dropWhile_cons_of_neg (by simp [hlabel])]

theorem WellFormed.fst_columns (h : file.WellFormed) :
    file.columns.map Prod.fst=tokens file.header :=
  List.map_fst_zip h.sameCount.ge

theorem WellFormed.nodup (h : file.WellFormed) : (file.columns.map Prod.fst).Nodup := by
  rw [h.fst_columns]
  exact h.distinct

/-- What a content publishes is what the loop over its columns leaves. -/
theorem WellFormed.netstatStats_text (h : file.WellFormed) (netTags : Tags) :
    netstatStats netTags (some file.text)=
      .published ((file.columns.foldl assign ⟨0,0,0⟩).counters netTags) := by
  obtain ⟨line,rest,hfrom,htokens⟩ := h.fromHeader_text
  have hlength : 0+(tokens file.header).length ≤ (tokens file.values).length := by
    rw [Nat.zero_add]
    exact h.sameCount.ge
  have hloop := alongside_eq_foldl headerPass_some (tokens file.header) 0 ⟨0,0,0⟩ hlength
  rw [netstatStats,hfrom]
  dsimp only
  rw [tokens_newline,htokens,hloop]
  rfl

/-- The value of a tracked name does not depend on the order of the columns or
on further ones. -/
theorem columnValue_eq_of_perm (h : other.WellFormed) (hperm : other.columns.Perm
    (file.columns++extra)) (hextra : ∀ column∈extra,¬Tracked column.1) {name : Token}
    (hname : Tracked name) : columnValue other.columns name=columnValue file.columns name := by
  have hnew : name∉extra.map Prod.fst := by
    rintro hmem
    obtain ⟨column,hcolumn,rfl⟩ := List.mem_map.mp hmem
    exact hextra column hcolumn hname
  rw [columnValue,columnValue,lookup_eq_of_perm h.nodup hperm hnew]

end NetstatFile

/-- The counters are set from the values under the four names, and only if there
is something to tell; no other order of the columns and no further columns
change that. -/
theorem netstatStats_columns (netTags : Tags) (file : NetstatFile) (h : file.WellFormed) :
    ∃ ect0 ect1 noEct congested : ℤ,
      HasValue file.columns "InECT0Pkts".toList ect0 ∧
      HasValue file.columns "InECT1Pkts".toList ect1 ∧
      HasValue file.columns "InNoECTPkts".toList noEct ∧
      HasValue file.columns "InCEPkts".toList congested ∧
      (FitsInt64 (ect0+ect1) →
        netstatStats netTags (some file.text)=.published
          (if 0<ect0+ect1 ∨ 0<noEct then
            [⟨"net.ip.congestedPackets".toList,protoTags netTags,congested⟩,
              ⟨"net.ip.ectPackets".toList,v4Tags netTags "capable".toList,ect0+ect1⟩,
              ⟨"net.ip.ectPackets".toList,v4Tags netTags "notCapable".toList,noEct⟩]
          else []) ∧
        ∀ (other : NetstatFile) (extra : List (Token×Token)),other.WellFormed →
          other.columns.Perm (file.columns++extra) → (∀ column∈extra,¬Tracked column.1) →
            netstatStats netTags (some other.text)=netstatStats netTags (some file.text)) := by
  have hvalue : ∀ name,HasValue file.columns name (columnValue file.columns name) :=
    fun _ => (hasValue_iff h.nodup).mpr rfl
  refine ⟨_,_,_,_,hvalue _,hvalue _,hvalue _,hvalue _,fun hsum => ⟨?_,?_⟩⟩
  · rw [h.netstatStats_text,foldl_assign_eq h.nodup hsum]
    rfl
  · intro other extra hother hperm hextra
    have hect0 := NetstatFile.columnValue_eq_of_perm hother hperm hextra (.inr (.inr (.inl rfl)))
    have hect1 := NetstatFile.columnValue_eq_of_perm hother hperm hextra (.inr (.inl rfl))
    have hnoEct := NetstatFile.columnValue_eq_of_perm hother hperm hextra (.inl rfl)
    have hcongested :=
      NetstatFile.columnValue_eq_of_perm hother hperm hextra (.inr (.inr (.inr rfl)))
    rw [h.netstatStats_text,hother.netstatStats_text,foldl_assign_eq h.nodup hsum,
      foldl_assign_eq hother.nodup (by rwa [hect0,hect1]),hect0,hect1,hnoEct,hcongested]

/-- Four columns, and a content with their order reversed and one more column. -/
def fourColumns : NetstatFile :=
  ⟨[],"IpExt: InNoECTPkts InECT1Pkts InECT0Pkts InCEPkts".toList,"IpExt: 60 4 2 30".toList,[]⟩

def reversedColumns : NetstatFile :=
  ⟨"TcpExt: SyncookiesSent\n".toList,
    "IpExt: InCEPkts InECT0Pkts InECT1Pkts InNoECTPkts ReasmOverlaps".toList,
    "IpExt: 30 2 4 60 7".toList,"\n".toList⟩

theorem wellFormed_fourColumns : fourColumns.WellFormed := by decide +kernel

theorem wellFormed_reversedColumns : reversedColumns.WellFormed := by decide +kernel

/-- Both contents publish the same three counters. -/
theorem netstatStats_reversedColumns :
    let published : Outcome := .published
      [⟨"net.ip.congestedPackets".toList,protoTags ∅,30⟩,
        ⟨"net.ip.ectPackets".toList,v4Tags ∅ "capable".toList,6⟩,
        ⟨"net.ip.ectPackets".toList,v4Tags ∅ "notCapable".toList,60⟩]
    netstatStats ∅ (some fourColumns.text)=published ∧
      netstatStats ∅ (some reversedColumns.text)=published := by
  obtain ⟨ect0,ect1,noEct,congested,hect0,hect1,hnoEct,hcongested,h⟩ :=
    netstatStats_columns ∅ fourColumns wellFormed_fourColumns
  rw [hasValue_iff wellFormed_fourColumns.nodup] at hect0 hect1 hnoEct hcongested
  have hfound : columnValue fourColumns.columns "InECT0Pkts".toList=2 ∧
      columnValue fourColumns.columns "InECT1Pkts".toList=4 ∧
      columnValue fourColumns.columns "InNoECTPkts".toList=60 ∧
      columnValue fourColumns.columns "InCEPkts".toList=30 ∧
      reversedColumns.columns.Perm
        (fourColumns.columns++[("ReasmOverlaps".toList,"7".toList)]) := by decide +kernel
  obtain ⟨h0,h1,h2,h3,hperm⟩ := hfound
  rw [←hect0,←hect1,←hnoEct,←hcongested,h0,h1,h2,h3] at h
  obtain ⟨hfile,hother⟩ := h (by decide)
  have hreversed := hother reversedColumns _ wellFormed_reversedColumns hperm
    (by simp [Tracked])
  exact ⟨hfile,hreversed.trans hfile⟩

/-- A number that an int64_t does not have counts as zero, and a sum that it
does not have is not positive. -/
theorem netstatStats_past_int64 :
    let number : NetstatFile :=
      ⟨[],"IpExt: InNoECTPkts".toList,"IpExt: 9223372036854775808".toList,[]⟩
    let sum : NetstatFile :=
      ⟨[],"IpExt: InECT1Pkts InECT0Pkts".toList,"IpExt: 9223372036854775807 1".toList,[]⟩
    number.WellFormed ∧
      ("InNoECTPkts".toList,"9223372036854775808".toList)∈number.columns ∧
      Integer "9223372036854775808".toList 9223372036854775808 ∧
      netstatStats ∅ (some number.text)=.published [] ∧
    sum.WellFormed ∧
      HasValue sum.columns "InECT1Pkts".toList 9223372036854775807 ∧
      HasValue sum.columns "InECT0Pkts".toList 1 ∧
      netstatStats ∅ (some sum.text)=.published [] := by
  intro number sum
  have hnumber : number.WellFormed ∧
      ("InNoECTPkts".toList,"9223372036854775808".toList)∈number.columns ∧
      netstatStats ∅ (some number.text)=.published [] := by decide +kernel
  have hsum : sum.WellFormed ∧
      columnValue sum.columns "InECT1Pkts".toList=9223372036854775807 ∧
      columnValue sum.columns "InECT0Pkts".toList=1 ∧
      netstatStats ∅ (some sum.text)=.published [] := by decide +kernel
  have hdecimal : Decimal "9223372036854775808".toList 9223372036854775808 :=
    ⟨by decide,List.all_eq_true.mp (by decide +kernel),by decide +kernel⟩
  obtain ⟨hnumber,hcolumn,hunpublished⟩ := hnumber
  obtain ⟨hsum,hect1,hect0,hnone⟩ := hsum
  exact ⟨hnumber,hcolumn,.plain hdecimal,hunpublished,hsum,
    (hasValue_iff hsum.nodup).mpr hect1,(hasValue_iff hsum.nodup).mpr hect0,hnone⟩

end AtlasAgent.NetstatColumns
