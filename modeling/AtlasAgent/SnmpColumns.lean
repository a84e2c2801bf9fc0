import AtlasAgent.KvFile
import AtlasAgent.LabelledLines
import AtlasAgent.ProcConnections
import Mathlib.Data.List.ReduceOption

/-!
# The columns of net/snmp

The kernel names the numbers of a protocol in a header and writes them on the
next line; snmp_stats takes them by their places. On a table with the columns
in the order of the kernel every meter gets the value that stands under its
name, whichever tables of other protocols stand between. After net/snmp come
the connections and net/snmp6.
-/

namespace AtlasAgent.SnmpColumns

open DecimalText DiskstatsLines FileReaders KvFile LabelledLines MountPoints NetTokens
open ProcConnections ProcNet ProcSnmp ScanMarks ScanfText SpacedText TextFields
open NumberText hiding startsWith toInt64
open KvFile (parseKvFromFile)

/-- A number stored in an unsigned long. -/
def toUnsigned (value : ℤ) : ℕ := (value%size64).toNat

/-- Numbers with a blank in front of each. -/
def numbersText (values : List ℤ) : Token := values.flatMap fun value => ' '::intText value

/-- A meter and the column that its value stands in. -/
structure Column where
  column : Token
  name : Token
  tags : Tags

namespace Protocol

/-- The columns that the kernel names in a header. -/
def columns : Protocol → List Token
  | .ip => ["Forwarding","DefaultTTL","InReceives","InHdrErrors","InAddrErrors","ForwDatagrams",
      "InUnknownProtos","InDiscards","InDelivers","OutRequests","OutDiscards","OutNoRoutes",
      "ReasmTimeout","ReasmReqds","ReasmOKs","ReasmFails","FragOKs","FragFails",
      "FragCreates"].map String.toList
  | .tcp => ["RtoAlgorithm","RtoMin","RtoMax","MaxConn","ActiveOpens","PassiveOpens",
      "AttemptFails","EstabResets","CurrEstab","InSegs","OutSegs","RetransSegs","InErrs",
      "OutRsts"].map String.toList
  | .udp => ["InDatagrams","NoPorts","InErrors","OutDatagrams"].map String.toList

/-- The meters of a protocol in the order in which they are set. -/
def meters (netTags : Tags) : Protocol → List Column
  | .ip =>
    [⟨"InReceives".toList,"net.ip.datagrams".toList,v4Tags netTags "in".toList⟩,
      ⟨"InDiscards".toList,"net.ip.discards".toList,v4Tags netTags "in".toList⟩,
      ⟨"OutRequests".toList,"net.ip.datagrams".toList,v4Tags netTags "out".toList⟩,
      ⟨"OutDiscards".toList,"net.ip.discards".toList,v4Tags netTags "out".toList⟩,
      ⟨"ReasmReqds".toList,"net.ip.reasmReqds".toList,protoTags netTags⟩]
  | .tcp =>
    [⟨"InSegs".toList,"net.tcp.segments".toList,idTags netTags "in".toList⟩,
      ⟨"OutSegs".toList,"net.tcp.segments".toList,idTags netTags "out".toList⟩,
      ⟨"RetransSegs".toList,"net.tcp.errors".toList,idTags netTags "retransSegs".toList⟩,
      ⟨"ActiveOpens".toList,"net.tcp.opens".toList,idTags netTags "active".toList⟩,
      ⟨"PassiveOpens".toList,"net.tcp.opens".toList,idTags netTags "passive".toList⟩,
      ⟨"AttemptFails".toList,"net.tcp.errors".toList,idTags netTags "attemptFails".toList⟩,
      ⟨"EstabResets".toList,"net.tcp.errors".toList,idTags netTags "estabResets".toList⟩,
      ⟨"CurrEstab".toList,"net.tcp.currEstab".toList,netTags⟩,
      ⟨"InErrs".toList,"net.tcp.errors".toList,idTags netTags "inErrs".toList⟩,
      ⟨"OutRsts".toList,"net.tcp.errors".toList,idTags netTags "outRsts".toList⟩]
  | .udp =>
    [⟨"InDatagrams".toList,"net.udp.datagrams".toList,v4Tags netTags "in".toList⟩,
      ⟨"InErrors".toList,"net.udp.errors".toList,v4Tags netTags "inErrors".toList⟩,
      ⟨"OutDatagrams".toList,"net.udp.datagrams".toList,v4Tags netTags "out".toList⟩]

end Protocol

/-- The value in a column of a table. -/
def valueOf (columns : List Token) (values : List ℤ) (column : Token) : Option ℤ :=
  values[columns.idxOf column]?

/-- A part of net/snmp. -/
inductive Block
  /-- The two lines of a protocol: further columns behind those of the kernel,
  and the values. -/
  | table (protocol : Protocol) (further : List Token) (values : List ℤ)
  /-- A line that does not begin a protocol. -/
  | other (line : Token)

namespace Block

/-- The header and the line of the values. -/
def lines : Block → List Token
  | table protocol further values =>
    [protocol.label++(Protocol.columns protocol++further).flatMap (' '::·),
      protocol.label++numbersText values]
  | other line => [line]

/-- A table has a value in every column, with a magnitude that an unsigned long
has; every line is read by one call. -/
def Readable : Block → Prop
  | table protocol further values =>
    (Protocol.columns protocol++further).length=values.length ∧
      (∀ value∈values,value.natAbs < size64) ∧
      ∀ line∈(table protocol further values).lines,'\n' ∉ line ∧ line.length<1023
  | other line => '\n' ∉ line ∧ line.length<1023 ∧ protocolOf line=none

/-- What a block sets. -/
def settings (netTags : Tags) : Block → List Setting
  | table protocol further values =>
    (Protocol.meters netTags protocol).map fun meter =>
      ⟨meter.name,meter.tags,
        (valueOf (Protocol.columns protocol++further) values meter.column).map toUnsigned⟩
  | other _ => []

end Block

section Numbers

/-- A whole number with its sign behind spaces. -/
theorem scanUnsigned_integer {spaces text rest : Token} {value : ℤ}
    (hspaces : ∀ c∈spaces,isSpace c=true) (h : Integer text value) (hvalue : value.natAbs < size64)
    (hrest : NoDigit rest) (file : Bool) :
    scanUnsigned ⟨spaces++(text++rest),file⟩=
      (some (toUnsigned value),readUpTo ⟨spaces++(text++rest),file⟩ rest) := by
  have hvisible := visible_integer h
  obtain ⟨negative,digits,hsign,hne,hdigits,hsigned⟩ := integer_iff_scanSign.mp h
  have hdecimal : Decimal digits (digitsValue digits) := ⟨hne,hdigits,rfl⟩
  have hlarge : ¬size64 ≤ digitsValue digits := by
    rw [←hsigned,signed] at hvalue
    split at hvalue <;> omega
  rw [scanUnsigned,scanDigits,skipSpace_append hspaces hvisible.head,
    scanSign_append hvisible.nonempty,hsign]
  dsimp only
  rw [hdecimal.takeWhile_append hrest,hdecimal.dropWhile_append hrest,if_neg hne,Option.map_some,
    unsignedLong,if_neg hlarge,hsigned]
  rfl

/-- What is left of a file is as if it had been opened there. -/
theorem readUpTo_openFile (text : Token) {rest : Token} (h : rest≠[]) :
    readUpTo (openFile text) rest=openFile rest := by
  obtain ⟨c,tail,rfl⟩ := List.exists_cons_of_ne_nil h
  rfl

/-- The numbers of a line are scanned up to as many as the format has. -/
theorem scanMany_numbersText {values : List ℤ} (hvalues : ∀ value∈values,value.natAbs < size64)
    (count : ℕ) :
    (scanMany scanUnsigned count (openFile (numbersText values++['\n']))).1=
      (values.take count).map toUnsigned := by
  induction values generalizing count with
  | nil =>
    cases count with
    | zero => rfl
    | succ count => rfl
  | cons value values ih =>
    cases count with
    | zero => rfl
    | succ count =>
      obtain ⟨hvalue,hvalues⟩ := List.forall_mem_cons.mp hvalues
      have hshape : numbersText (value::values)++['\n']=
          [' ']++(intText value++(numbersText values++['\n'])) := by simp [numbersText]
      obtain ⟨c,rest,hrest,hspace⟩ : ∃ c rest,numbersText values++['\n']=c::rest ∧
          isSpace c=true := by
        cases values with
        | nil => exact ⟨_,_,rfl,by decide⟩
        | cons value values => exact ⟨_,_,rfl,by decide⟩
      have hdigit : NoDigit (numbersText values++['\n']) := by
        rw [hrest]
        refine noDigit_cons.mpr ?_
        cases hd : c.isDigit with
        | false => rfl
        | true => rw [isSpace_of_isDigit hd] at hspace; cases hspace
      have hblank : ∀ c∈[' '],isSpace c=true := List.forall_mem_singleton.mpr (by decide)
      have hmore : numbersText values++['\n']≠[] := List.append_ne_nil_of_right_ne_nil _ (by simp)
      rw [hshape,scanMany,openFile,
        scanUnsigned_integer hblank (integer_intText value) hvalue hdigit,←openFile,
        readUpTo_openFile _ hmore]
      dsimp only
      rw [ih hvalues,List.take_succ_cons,List.map_cons]

theorem null_not_mem_intText (value : ℤ) : '\x00' ∉ intText value := by
  have hdigits : '\x00' ∉ Nat.toDigits 10 value.natAbs := fun hmem =>
    absurd ((decimal_toDigits value.natAbs).digits _ hmem) (by decide)
  rw [intText]
  split_ifs
  · rw [List.mem_cons,not_or]
    exact ⟨by decide,hdigits⟩
  · exact hdigits

/-- The line of the values is scanned from behind the name. -/
theorem sscanfUnsigned_values {name : Token} (hname : '\x00' ∉ name) {values : List ℤ}
    (hvalues : ∀ value∈values,value.natAbs < size64) (count : ℕ) :
    sscanfUnsigned name count (name++numbersText values++['\n'])=
      (values.take count).map toUnsigned := by
  have hnumbers : '\x00' ∉ numbersText values := by
    rw [numbersText,List.mem_flatMap]
    rintro ⟨value,-,hmem⟩
    obtain hblank|hmem := List.mem_cons.mp hmem
    · exact absurd hblank (by decide)
    · exact null_not_mem_intText value hmem
  have hnull : '\x00' ∉ name++numbersText values++['\n'] := by
    simp only [List.mem_append,List.mem_singleton,not_or]
    exact ⟨⟨hname,hnumbers⟩,by decide⟩
  rw [sscanfUnsigned,if_pos,cStr,takeWhile_ne_of_not_mem hnull,List.append_assoc,List.drop_left,
    scanMany_numbersText hvalues]
  rw [startsWith_iff hname,List.append_assoc]
  exact List.prefix_append _ _

end Numbers

section Tables

variable {values : List ℤ} {further : List Token}

/-- Further columns are behind those of the kernel. -/
theorem valueOf_append {columns : List Token} {column : Token} (h : column∈columns) :
    valueOf (columns++further) values column=values[columns.idxOf column]? := by
  rw [valueOf,List.idxOf_append_of_mem h]

/-- The values that are set are those under the names. -/
theorem parse_values (netTags : Tags) {protocol : Protocol}
    (h : (Block.table protocol further values).Readable) :
    protocol.parse netTags (protocol.label++numbersText values++['\n'])=
      (Block.table protocol further values).settings netTags := by
  obtain ⟨hlength,hvalues,-⟩ := h
  rw [List.length_append] at hlength
  have hcolumn : ∀ column∈Protocol.columns protocol,
      valueOf (Protocol.columns protocol++further) values column=
        values[(Protocol.columns protocol).idxOf column]? := fun column hmem => valueOf_append hmem
  cases protocol with
  | ip =>
    have hscan := sscanfUnsigned_values (by decide : '\x00' ∉ "Ip:".toList) hvalues 19
    rw [Protocol.parse,parseIpStats,Protocol.label,hscan,Block.settings]
    simp only [Protocol.meters,List.map_cons,List.map_nil,List.getElem?_map,List.getElem?_take]
    rw [hcolumn _ (by decide),hcolumn _ (by decide),hcolumn _ (by decide),hcolumn _ (by decide),
      hcolumn _ (by decide)]
    rfl
  | tcp =>
    have hscan := sscanfUnsigned_values (by decide : '\x00' ∉ "Tcp:".toList) hvalues 14
    have hmany : 14 ≤ ((values.take 14).map toUnsigned).length := by
      have hcolumns : (Protocol.columns .tcp).length=14 := by decide
      rw [List.length_map,List.length_take]
      omega
    rw [Protocol.parse,parseTcpStats,Protocol.label,hscan,Block.settings]
    rw [if_pos (by omega),if_pos (by omega)]
    simp only [Protocol.meters,List.map_cons,List.map_nil,List.getElem?_map,List.getElem?_take]
    rw [hcolumn _ (by decide),hcolumn _ (by decide),hcolumn _ (by decide),hcolumn _ (by decide),
      hcolumn _ (by decide),hcolumn _ (by decide),hcolumn _ (by decide),hcolumn _ (by decide),
      hcolumn _ (by decide),hcolumn _ (by decide)]
    rfl
  | udp =>
    have hscan := sscanfUnsigned_values (by decide : '\x00' ∉ "Udp:".toList) hvalues 4
    rw [Protocol.parse,parseUdpStats,Protocol.label,hscan,Block.settings]
    simp only [Protocol.meters,List.map_cons,List.map_nil,List.getElem?_map,List.getElem?_take]
    rw [hcolumn _ (by decide),hcolumn _ (by decide),hcolumn _ (by decide)]
    rfl

/-- The line that is parsed for a block. -/
def Block.parsed : Block → List (Protocol×Token)
  | .table protocol _ values => [(protocol,protocol.label++numbersText values++['\n'])]
  | .other _ => []

/-- Without a protocol a line begins with none of the names. -/
theorem protocolOf_eq_none_iff (line : Token) :
    protocolOf line=none ↔
      ∀ name∈["Ip: ".toList,"Tcp: ".toList,"Udp: ".toList],¬name<+:line := by
  simp only [List.forall_mem_cons,List.not_mem_nil,false_imp_iff,implies_true,and_true]
  rw [←startsWith_iff (by decide),←startsWith_iff (by decide),←startsWith_iff (by decide),
    protocolOf]
  split_ifs with hip htcp hudp
  · exact iff_of_false (by simp) fun h => h.1 hip
  · exact iff_of_false (by simp) fun h => h.2.1 htcp
  · exact iff_of_false (by simp) fun h => h.2.2 hudp
  · exact iff_of_true rfl ⟨hip,htcp,hudp⟩

theorem protocolOf_newline {line : Token} (h : protocolOf line=none) :
    protocolOf (line++['\n'])=none := by
  rw [protocolOf_eq_none_iff] at h ⊢
  have hbreak : ∀ name∈["Ip: ".toList,"Tcp: ".toList,"Udp: ".toList],'\n' ∉ name := by decide
  exact fun name hmem hbegins => h name hmem (begins_of_begins_newline (hbreak name hmem) hbegins)

/-- A name and a blank announce the protocol. -/
theorem protocolOf_header (protocol : Protocol) (rest : Token) :
    protocolOf (protocol.label++ ' '::rest)=some protocol := by
  cases protocol <;> rfl

/-- The loop parses one line for each table. -/
theorem parsedLines_blocks {blocks : List Block} (h : ∀ block∈blocks,block.Readable) :
    parsedLines ((blocks.flatMap Block.lines).map (·++['\n']))=blocks.flatMap Block.parsed := by
  induction blocks with
  | nil => rfl
  | cons block blocks ih =>
    obtain ⟨hblock,hblocks⟩ := List.forall_mem_cons.mp h
    rw [List.flatMap_cons,List.flatMap_cons,List.map_append]
    cases block with
    | table protocol further values =>
      obtain ⟨rest,hrest⟩ : ∃ rest,(Protocol.columns protocol++further).flatMap (' '::·)=
          ' '::rest := by
        cases protocol <;> exact ⟨_,rfl⟩
      rw [Block.lines,hrest,List.map_cons,List.map_singleton,List.cons_append,List.singleton_append,
        List.append_assoc,List.cons_append,parsedLines,protocolOf_header]
      dsimp only
      rw [ih hblocks]
      rfl
    | other line =>
      rw [Block.lines,List.map_singleton,List.singleton_append,parsedLines,
        protocolOf_newline hblock.2.2]
      exact ih hblocks

/-- Every line of the blocks is read by one call. -/
theorem bufferedLines_blocks {blocks : List Block} (h : ∀ block∈blocks,block.Readable) :
    bufferedLines (unlines (blocks.flatMap Block.lines))=
      (blocks.flatMap Block.lines).map (·++['\n']) := by
  refine fgetsAll_unlines fun line hline => ?_
  obtain ⟨block,hblock,hline⟩ := List.mem_flatMap.mp hline
  have hread := h block hblock
  cases block with
  | table protocol further values => exact hread.2.2 line hline
  | other text =>
    rw [List.mem_singleton.mp hline]
    exact ⟨hread.1,hread.2.1⟩

/-- A written net/snmp sets what its tables have under the names of the
columns, table by table. -/
theorem snmpStats_blocks (netTags : Tags) {blocks : List Block}
    (h : ∀ block∈blocks,block.Readable) :
    snmpStats netTags (some (unlines (blocks.flatMap Block.lines)))=
      blocks.flatMap (Block.settings netTags) := by
  rw [snmpStats,bufferedLines_blocks h,parsedLines_blocks h,List.flatMap_assoc]
  refine List.flatMap_congr fun block hblock => ?_
  have hread := h block hblock
  cases block with
  | table protocol further values =>
    rw [Block.parsed,List.flatMap_singleton]
    exact parse_values netTags hread
  | other line => rfl

end Tables

section VersionSix

/-- The tags of a meter of version six with an id. -/
def v6Tags (netTags : Tags) (id : Token) : Tags :=
  ((∅ : Tags).insert "id".toList id).insert "proto".toList "v6".toList ∪ netTags

/-- The tags of a meter of version six. -/
def protoV6Tags (netTags : Tags) : Tags := (∅ : Tags).insert "proto".toList "v6".toList ∪ netTags

/-- A counter that is set when its key has been found. -/
def setFound (stats : Stats) (meter : Column) : List Counter :=
  match stats.lookup meter.column with
  | some value => [⟨meter.name,meter.tags,value⟩]
  | none => []

/-- The counters of parse_ipv6_stats in front of the one for capable packets. -/
def ipv6Meters (netTags : Tags) : List Column :=
  [⟨"Ip6InReceives".toList,"net.ip.datagrams".toList,v6Tags netTags "in".toList⟩,
    ⟨"Ip6InDiscards".toList,"net.ip.discards".toList,v6Tags netTags "in".toList⟩,
    ⟨"Ip6OutRequests".toList,"net.ip.datagrams".toList,v6Tags netTags "out".toList⟩,
    ⟨"Ip6OutDiscards".toList,"net.ip.discards".toList,v6Tags netTags "out".toList⟩,
    ⟨"Ip6ReasmReqds".toList,"net.ip.reasmReqds".toList,protoV6Tags netTags⟩]

/-- The counters of parse_ipv6_stats behind it. -/
def ecnMeters (netTags : Tags) : List Column :=
  [⟨"Ip6InNoECTPkts".toList,"net.ip.ectPackets".toList,v6Tags netTags "notCapable".toList⟩,
    ⟨"Ip6InCEPkts".toList,"net.ip.congestedPackets".toList,protoV6Tags netTags⟩]

/-- ectCapable: what is found is added up from zero. -/
def ectCapable (stats : Stats) : ℤ :=
  ["Ip6InECT0Pkts".toList,"Ip6InECT1Pkts".toList].foldl (fun sum key =>
    match stats.lookup key with
    | some value => addInt64 sum value
    | none => sum) 0

/-- Proc::parse_ipv6_stats. -/
def parseIpv6Stats (netTags : Tags) (stats : Stats) : List Counter :=
  (ipv6Meters netTags).flatMap (setFound stats)++
    [⟨"net.ip.ectPackets".toList,v6Tags netTags "capable".toList,ectCapable stats⟩]++
    (ecnMeters netTags).flatMap (setFound stats)

/-- The counters of parse_udpv6_stats. -/
def udpv6Meters (netTags : Tags) : List Column :=
  [⟨"Udp6InDatagrams".toList,"net.udp.datagrams".toList,v6Tags netTags "in".toList⟩,
    ⟨"Udp6InErrors".toList,"net.udp.errors".toList,v6Tags netTags "inErrors".toList⟩,
    ⟨"Udp6OutDatagrams".toList,"net.udp.datagrams".toList,v6Tags netTags "out".toList⟩]

/-- Proc::parse_udpv6_stats. -/
def parseUdpv6Stats (netTags : Tags) (stats : Stats) : List Counter :=
  (udpv6Meters netTags).flatMap (setFound stats)

/-- What snmp_stats sets. -/
structure SnmpResult where
  snmp : List Setting
  states : List TcpGauge
  snmp6 : List Counter
  deriving DecidableEq

/-- Proc::snmp_stats with all the files that it reads. Without the first one it
does not come to the others. -/
def snmpFiles (netTags : Tags) (snmp tcp tcp6 snmp6 : Option Token) : SnmpResult :=
  match snmp with
  | none => ⟨[],[],[]⟩
  | some text =>
    let stats := parseKvFromFile snmp6 ∅
    ⟨snmpStats netTags (some text),parseTcpConnections netTags tcp tcp6,
      parseIpv6Stats netTags stats++parseUdpv6Stats netTags stats⟩

/-- Maps with the same values set the same counters. -/
theorem snmp6_congr (netTags : Tags) {stats stats' : Stats}
    (h : ∀ key,stats.lookup key=stats'.lookup key) :
    parseIpv6Stats netTags stats++parseUdpv6Stats netTags stats=
      parseIpv6Stats netTags stats'++parseUdpv6Stats netTags stats' := by
  have hfound : setFound stats=setFound stats' := funext fun meter => by
    rw [setFound,setFound,h]
  simp only [parseIpv6Stats,parseUdpv6Stats,ectCapable,hfound,h]

end VersionSix

section Series

/-- A meter's name and tags. -/
abbrev Series := Token×Tags

/-- The series of a meter that is set from a column. -/
def Column.series (meter : Column) : Series := (meter.name,meter.tags)

/-- The series of the connections of a protocol. -/
def stateSeries (netTags : Tags) (protocol : Token) : List Series :=
  tcpStates.map fun state => ("net.tcp.connectionStates".toList,tcpstateTags netTags protocol state)

/-- The series of version four. -/
def v4Series (netTags : Tags) : List Series :=
  (Protocol.meters netTags .ip).map Column.series++
    (Protocol.meters netTags .tcp).map Column.series++
    (Protocol.meters netTags .udp).map Column.series

/-- The series of version six. -/
def v6Series (netTags : Tags) : List Series :=
  (ipv6Meters netTags).map Column.series++
    [("net.ip.ectPackets".toList,v6Tags netTags "capable".toList)]++
    (ecnMeters netTags).map Column.series++(udpv6Meters netTags).map Column.series

/-- The series under which snmp_stats publishes. -/
def snmpSeries (netTags : Tags) : List Series :=
  v4Series netTags++(stateSeries netTags "v4".toList++stateSeries netTags "v6".toList)++
    v6Series netTags

/-- Names whose tags have no protocol of their own. -/
def withoutProtocol : List Token :=
  ["net.tcp.segments","net.tcp.errors","net.tcp.opens","net.tcp.currEstab"].map String.toList

/-- Names whose tags have no id of their own. -/
def withoutId : List Token :=
  ["net.tcp.currEstab","net.ip.reasmReqds","net.ip.congestedPackets"].map String.toList

/-- The name of a series with the protocol and the id that it has of its own. -/
def mark (entry : Series) : Token×Option Token×Option Token :=
  (entry.1,if withoutProtocol.contains entry.1 then none else entry.2.lookup "proto".toList,
    if withoutId.contains entry.1 then none else entry.2.lookup "id".toList)

/-- The mark only depends on the tags that come before those of the network. -/
theorem mark_union {name : Token} {own : Tags}
    (hprotocol : withoutProtocol.contains name=true ∨ "proto".toList∈own)
    (hid : withoutId.contains name=true ∨ "id".toList∈own) (netTags : Tags) :
    mark (name,own ∪ netTags)=mark (name,own) := by
  have hlookup : ∀ {without : List Token} {key : Token},
      without.contains name=true ∨ key∈own →
      (if without.contains name then none else (own ∪ netTags).lookup key)=
        if without.contains name then none else own.lookup key := by
    intro without key h
    split_ifs with hname
    · rfl
    · exact AList.lookup_union_left (h.resolve_left hname)
  rw [mark,mark]
  dsimp only
  rw [hlookup hprotocol,hlookup hid]

/-- The tags of the network come behind those of a series. -/
theorem snmpSeries_eq (netTags : Tags) :
    snmpSeries netTags=(snmpSeries ∅).map fun entry => (entry.1,entry.2 ∪ netTags) := by
  have hv4 : v4Series netTags=(v4Series ∅).map fun entry => (entry.1,entry.2 ∪ netTags) := by
    simp only [v4Series,Protocol.meters,Column.series,List.map_cons,List.map_nil,List.map_append,
      AList.empty_union]
    rfl
  have hstates : ∀ protocol,stateSeries netTags protocol=
      (stateSeries ∅ protocol).map fun entry => (entry.1,entry.2 ∪ netTags) := by
    intro protocol
    rw [stateSeries,stateSeries,List.map_map]
    rfl
  have hv6 : v6Series netTags=(v6Series ∅).map fun entry => (entry.1,entry.2 ∪ netTags) := rfl
  rw [snmpSeries,snmpSeries,List.map_append,List.map_append,List.map_append,←hv4,←hstates,←hstates,
    ←hv6]

/-- The same name and the same tags, in whatever order a map lists them. -/
def SameSeries (entry other : Series) : Prop :=
  entry.1=other.1 ∧ ∀ key,entry.2.lookup key=other.2.lookup key

theorem SameSeries.mark_eq {entry other : Series} (h : SameSeries entry other) :
    mark entry=mark other := by
  rw [mark,mark,h.1,h.2,h.2]

/-- The marks tell the series apart, whatever the tags of the network are. -/
theorem pairwise_snmpSeries (netTags : Tags) :
    (snmpSeries netTags).Pairwise fun entry other => ¬SameSeries entry other := by
  have hown : ∀ entry∈snmpSeries ∅,
      (withoutProtocol.contains entry.1=true ∨ "proto".toList∈entry.2) ∧
      (withoutId.contains entry.1=true ∨ "id".toList∈entry.2) := by decide +kernel
  have hdistinct : ((snmpSeries ∅).map mark).Nodup := by decide +kernel
  have hmarks : (snmpSeries netTags).map mark=(snmpSeries ∅).map mark := by
    rw [snmpSeries_eq,List.map_map]
    exact List.map_congr_left fun entry hentry =>
      mark_union (hown entry hentry).1 (hown entry hentry).2 netTags
  rw [←hmarks] at hdistinct
  exact (List.pairwise_map.mp hdistinct).imp fun hne hsame => hne hsame.mark_eq

/-- Of the series of keys those are set whose keys are found. -/
theorem sublist_setFound (stats : Stats) (meters : List Column) :
    List.Sublist ((meters.flatMap (setFound stats)).map fun counter => (counter.name,counter.tags))
      (meters.map Column.series) := by
  induction meters with
  | nil => exact .slnil
  | cons meter meters ih =>
    rw [List.flatMap_cons,List.map_append,List.map_cons,setFound]
    cases stats.lookup meter.column with
    | none => exact ih.cons _
    | some value => exact ih.cons_cons _

/-- The connections of a protocol are set all or not at all. -/
theorem sublist_states (netTags : Tags) (protocol : Token) (file : Option Token) :
    List.Sublist ((updateTcpstatesForProto netTags protocol file).map fun gauge =>
        ("net.tcp.connectionStates".toList,gauge.tags)) (stateSeries netTags protocol) := by
  cases file with
  | none => exact List.nil_sublist _
  | some text =>
    rw [updateTcpstatesForProto,sumTcpStates_eq,stateSeries,List.map_zipWith]
    simp only [tcpStates,kConnStates,List.range_succ,List.range_zero,List.nil_append,
      List.cons_append,List.map_cons,List.map_nil,List.zipWith_cons_cons,List.zipWith_nil_left]
    exact List.Sublist.refl _

/-- The last two meters of TCP may be left out. -/
theorem sublist_tcp (netTags : Tags) (buf : Token) :
    List.Sublist ((parseTcpStats netTags buf).map fun setting => (setting.name,setting.tags))
      ((Protocol.meters netTags .tcp).map Column.series) := by
  have hmeters : (Protocol.meters netTags .tcp).map Column.series=
      ((Protocol.meters netTags .tcp).map Column.series).take 8++
        [("net.tcp.errors".toList,idTags netTags "inErrs".toList)]++
        [("net.tcp.errors".toList,idTags netTags "outRsts".toList)] := rfl
  have hlast : ∀ {c : Prop} [Decidable c] {setting : Setting} {entry : Series},
      (setting.name,setting.tags)=entry →
        List.Sublist ((if c then [setting] else []).map fun setting => (setting.name,setting.tags))
          [entry] := by
    intro c _ setting entry h
    split_ifs
    · rw [List.map_singleton,h]
    · exact List.nil_sublist _
  rw [parseTcpStats,hmeters,List.map_append,List.map_append]
  exact ((List.Sublist.refl _).append (hlast rfl)).append (hlast rfl)

/-- No two of the meters that are set, by one line of each protocol, by the
connections and by net/snmp6, have the same name and the same tags. -/
theorem series_distinct (netTags : Tags) (ip tcp udp : Token)
    (connections connections6 : Option Token) (stats : Stats) :
    ((parseIpStats netTags ip++parseTcpStats netTags tcp++parseUdpStats netTags udp).map
        (fun setting => (setting.name,setting.tags))++
      (parseTcpConnections netTags connections connections6).map
        (fun gauge => ("net.tcp.connectionStates".toList,gauge.tags))++
      (parseIpv6Stats netTags stats++parseUdpv6Stats netTags stats).map
        fun counter => (counter.name,counter.tags)).Pairwise
      fun entry other => ¬SameSeries entry other := by
  refine (pairwise_snmpSeries netTags).sublist ?_
  rw [snmpSeries,v4Series,v6Series,parseTcpConnections,parseIpv6Stats,parseUdpv6Stats]
  simp only [List.map_append]
  have hfound := sublist_setFound stats
  exact ((((List.Sublist.refl _).append (sublist_tcp netTags tcp)).append
    (List.Sublist.refl _)).append
    ((sublist_states netTags _ _).append (sublist_states netTags _ _))).append
    ((((hfound _).append (List.Sublist.refl _)).append (hfound _)).append (hfound _))

end Series

section Files

/-- The kernel pads a key of net/snmp6 to 32 characters and writes a tab. -/
def snmp6Gap (key : Token) : Token := List.replicate (32-key.length) ' '++['\t']

/-- The tags of a counter of net/snmp6: the protocol and the id that it has of
its own, and those of the network. -/
def snmp6Tags (netTags : Tags) : Option String → Tags
  | none => (∅ : Tags).insert "proto".toList "v6".toList ∪ netTags
  | some id => ((∅ : Tags).insert "id".toList id.toList).insert "proto".toList "v6".toList ∪ netTags

/-- The counters of net/snmp6: each has the value of its key and is left out
without it, but the one of the capable packets, which adds two values up and is
always there. -/
def snmp6Counters (netTags : Tags) (stats : Stats) : List Counter :=
  let counter := fun (key name : String) (id : Option String) =>
    (stats.lookup key.toList).map fun value =>
      Counter.mk name.toList (snmp6Tags netTags id) value
  let capable := (stats.lookup "Ip6InECT0Pkts".toList).getD 0+
    (stats.lookup "Ip6InECT1Pkts".toList).getD 0
  [counter "Ip6InReceives" "net.ip.datagrams" (some "in"),
    counter "Ip6InDiscards" "net.ip.discards" (some "in"),
    counter "Ip6OutRequests" "net.ip.datagrams" (some "out"),
    counter "Ip6OutDiscards" "net.ip.discards" (some "out"),
    counter "Ip6ReasmReqds" "net.ip.reasmReqds" none,
    some ⟨"net.ip.ectPackets".toList,snmp6Tags netTags (some "capable"),capable⟩,
    counter "Ip6InNoECTPkts" "net.ip.ectPackets" (some "notCapable"),
    counter "Ip6InCEPkts" "net.ip.congestedPackets" none,
    counter "Udp6InDatagrams" "net.udp.datagrams" (some "in"),
    counter "Udp6InErrors" "net.udp.errors" (some "inErrors"),
    counter "Udp6OutDatagrams" "net.udp.datagrams" (some "out")].reduceOption

/-- What the capable packets add up to is a number that an int64_t has. -/
def CapableFits (stats : Stats) : Prop :=
  FitsInt64 ((stats.lookup "Ip6InECT0Pkts".toList).getD 0+
    (stats.lookup "Ip6InECT1Pkts".toList).getD 0)

theorem gap_snmp6Gap (key : Token) : Gap (snmp6Gap key) where
  nonempty := List.append_ne_nil_of_right_ne_nil _ (by decide)
  spaces c hc := by
    obtain hc|hc := List.mem_append.mp hc
    · rw [(List.mem_replicate.mp hc).2]
      decide
    · rw [List.mem_singleton.mp hc]
      decide
  oneLine hmem := by
    obtain hmem|hmem := List.mem_append.mp hmem
    · exact absurd (List.mem_replicate.mp hmem).2 (by decide)
    · exact absurd (List.mem_singleton.mp hmem) (by decide)

/-- The meters of keys are set where the keys are there. -/
theorem flatMap_setFound (stats : Stats) (meters : List Column) :
    meters.flatMap (setFound stats)=(meters.map fun meter =>
      (stats.lookup meter.column).map fun value =>
        Counter.mk meter.name meter.tags value).reduceOption := by
  induction meters with
  | nil => rfl
  | cons meter meters ih =>
    rw [List.flatMap_cons,ih,setFound,List.map_cons]
    cases stats.lookup meter.column with
    | none => rfl
    | some value => rfl

theorem ectCapable_eq {stats : Stats} (h : CapableFits stats) :
    ectCapable stats=(stats.lookup "Ip6InECT0Pkts".toList).getD 0+
      (stats.lookup "Ip6InECT1Pkts".toList).getD 0 := by
  rw [CapableFits] at h
  rw [ectCapable,List.foldl_cons,List.foldl_cons,List.foldl_nil]
  cases hzero : stats.lookup "Ip6InECT0Pkts".toList with
  | none =>
    rw [hzero] at h
    cases hone : stats.lookup "Ip6InECT1Pkts".toList with
    | none => rfl
    | some one =>
      rw [hone] at h
      exact addInt64_eq h
  | some zero =>
    rw [hzero] at h
    cases hone : stats.lookup "Ip6InECT1Pkts".toList with
    | none =>
      rw [hone,Option.getD_none,add_zero,←zero_add (Option.getD _ _)] at h
      rw [Option.getD_none,add_zero,←zero_add (Option.getD _ _)]
      exact addInt64_eq h
    | some one =>
      rw [hone,Option.getD_some,Option.getD_some,←zero_add zero] at h
      rw [Option.getD_some,Option.getD_some,←zero_add zero]
      simpa using addInt64_addInt64_eq h

/-- The functions for version six set the counters. -/
theorem snmp6Counters_eq (netTags : Tags) {stats : Stats} (h : CapableFits stats) :
    parseIpv6Stats netTags stats++parseUdpv6Stats netTags stats=snmp6Counters netTags stats := by
  have hcapable : ∀ counter : Counter,[counter]=[some counter].reduceOption := fun _ => rfl
  rw [parseIpv6Stats,parseUdpv6Stats,ectCapable_eq h,flatMap_setFound,flatMap_setFound,
    flatMap_setFound,hcapable,←List.reduceOption_append,←List.reduceOption_append,
    ←List.reduceOption_append]
  rfl

/-- What the four files have is set: the values under the names of the columns,
the numbers of the connections and the values of the keys. Without the first
file nothing is set, whatever the others have; without the last one the capable
packets are still set, to zero. -/
theorem snmpFiles_spec (netTags : Tags) {blocks : List Block} (h : ∀ block∈blocks,block.Readable)
    {tcp tcp6 : Option Table} (htcp : ∀ table∈tcp,table.WellFormed)
    (htcp6 : ∀ table∈tcp6,table.WellFormed) {stats : Stats}
    (hstats : ∀ entry∈stats.entries,PrintableWith (snmp6Gap entry.1) entry)
    (hcapable : CapableFits stats) :
    snmpFiles netTags (some (unlines (blocks.flatMap Block.lines))) (tcp.map Table.text)
        (tcp6.map Table.text) (some (printWith snmp6Gap stats))=
      ⟨blocks.flatMap (Block.settings netTags),
        protocolGauges netTags "v4".toList tcp++protocolGauges netTags "v6".toList tcp6,
        snmp6Counters netTags stats⟩ ∧
    (∀ tcp tcp6 snmp6,snmpFiles netTags none tcp tcp6 snmp6=⟨[],[],[]⟩) ∧
    ∀ text tcp tcp6,(snmpFiles netTags (some text) tcp tcp6 none).snmp6=
      [⟨"net.ip.ectPackets".toList,snmp6Tags netTags (some "capable"),0⟩] := by
  refine ⟨?_,fun _ _ _ => rfl,fun _ _ _ => rfl⟩
  have hstates : parseTcpConnections netTags (tcp.map Table.text) (tcp6.map Table.text)=
      protocolGauges netTags "v4".toList tcp++protocolGauges netTags "v6".toList tcp6 := by
    rw [parseTcpConnections,updateTcpstatesForProto_text netTags _ htcp,
      updateTcpstatesForProto_text netTags _ htcp6]
  have hread := lookup_parseKvFromFile_printWith gap_snmp6Gap hstats
  rw [snmpFiles,snmpStats_blocks netTags h,hstates,snmp6_congr netTags hread,
    snmp6Counters_eq netTags hcapable]

/-- A table with a column that the kernel has added, between other lines. -/
def udpBlocks : List Block :=
  [.other "IcmpMsg: InType3".toList,.table .udp ["RcvbufErrors".toList] [7,-1,2,9,4],
    .other "UdpLite: 1".toList]

/-- Keys of both protocols, with packets that are capable in both ways. -/
def capableStats : Stats :=
  ((((∅ : Stats).insert "Ip6InReceives".toList 26635).insert "Ip6InECT0Pkts".toList 5).insert
    "Ip6InECT1Pkts".toList 7).insert "Udp6InErrors".toList 3

/-- Connections of one version and no file of the other one. -/
theorem snmpFiles_udpBlocks :
    let result := snmpFiles ∅ (some (unlines (udpBlocks.flatMap Block.lines)))
      (some listenTable.text) none (some (printWith snmp6Gap capableStats))
    result.snmp.map (·.value)=[some 7,some 2,some 9] ∧
      result.states.map (·.value)=[1,0,0,0,0,0,0,0,0,2,0] ∧
      result.snmp6.map (fun counter => (counter.name,counter.value))=
        [("net.ip.datagrams".toList,26635),("net.ip.ectPackets".toList,12),
          ("net.udp.errors".toList,3)] := by
  intro result
  have hblocks : ∀ block∈udpBlocks,block.Readable := by
    simp only [udpBlocks,List.forall_mem_cons]
    exact ⟨⟨by decide,by decide,by decide⟩,⟨by decide,by decide,by decide⟩,
      ⟨by decide,by decide,by decide⟩,List.forall_mem_nil _⟩
  have htcp : ∀ table∈some listenTable,table.WellFormed := by
    rintro table ⟨rfl⟩
    exact wellFormed_listenTable
  have htcp6 : ∀ table∈(none : Option Table),table.WellFormed := fun table hmem => by cases hmem
  have hstats : ∀ entry∈capableStats.entries,PrintableWith (snmp6Gap entry.1) entry := by
    decide +kernel
  have hcapable : CapableFits capableStats := ⟨by decide,by decide⟩
  have hspec := (snmpFiles_spec ∅ hblocks htcp htcp6 hstats hcapable).1
  have hresult : result=⟨udpBlocks.flatMap (Block.settings ∅),
      protocolGauges ∅ "v4".toList (some listenTable)++protocolGauges ∅ "v6".toList none,
      snmp6Counters ∅ capableStats⟩ := hspec
  rw [hresult]
  exact ⟨by decide,by decide,by decide +kernel⟩

end Files

end AtlasAgent.SnmpColumns
