import AtlasAgent.NetTokens
import AtlasAgent.ScanMarks

/-!
# Proc::snmp_stats

In net/snmp a header with the name of a protocol announces a line of numbers.
The line is scanned by a format with the name and one %lu for each number, and
the variables are set on meters without regard to how many of them the scan
has assigned, except for the last two of TCP. What has been assigned is told
exactly by how many numbers the line has after the name.
-/

namespace AtlasAgent.ProcSnmp

open MountPoints NetTokens ProcNet ScanMarks ScanfText TextFields
open NumberText hiding startsWith toInt64

/-- The conversion %lu of a number. -/
def unsignedLong (number : Bool×ℕ) : ℕ :=
  if size64 ≤ number.2 then size64-1 else (signed number.1 number.2%size64).toNat

/-- One conversion %lu. -/
def scanUnsigned (file : InputFile) : Option ℕ×InputFile :=
  ((scanDigits file).1.map unsignedLong,(scanDigits file).2)

/-- sscanf of a buffer by a format of a name and conversions %lu: what the
variables are assigned, in order. -/
def sscanfUnsigned (name : Token) (count : ℕ) (buf : Token) : List ℕ :=
  if startsWith buf name then
    (scanMany scanUnsigned count (openFile ((cStr buf).drop name.length))).1
  else []

/-- A meter that is set from a variable, without a value where the variable has
not been assigned. -/
structure Setting where
  name : Token
  tags : Tags
  value : Option ℕ
  deriving DecidableEq

/-- The tags of a meter with an id. -/
def idTags (netTags : Tags) (id : Token) : Tags := (∅ : Tags).insert "id".toList id ∪ netTags

/-- Proc::parse_ip_stats. -/
def parseIpStats (netTags : Tags) (buf : Token) : List Setting :=
  let values := sscanfUnsigned "Ip:".toList 19 buf
  [⟨"net.ip.datagrams".toList,v4Tags netTags "in".toList,values[2]?⟩,
    ⟨"net.ip.discards".toList,v4Tags netTags "in".toList,values[7]?⟩,
    ⟨"net.ip.datagrams".toList,v4Tags netTags "out".toList,values[9]?⟩,
    ⟨"net.ip.discards".toList,v4Tags netTags "out".toList,values[10]?⟩,
    ⟨"net.ip.reasmReqds".toList,protoTags netTags,values[13]?⟩]

/-- Proc::parse_tcp_stats. -/
def parseTcpStats (netTags : Tags) (buf : Token) : List Setting :=
  let values := sscanfUnsigned "Tcp:".toList 14 buf
  [⟨"net.tcp.segments".toList,idTags netTags "in".toList,values[9]?⟩,
    ⟨"net.tcp.segments".toList,idTags netTags "out".toList,values[10]?⟩,
    ⟨"net.tcp.errors".toList,idTags netTags "retransSegs".toList,values[11]?⟩,
    ⟨"net.tcp.opens".toList,idTags netTags "active".toList,values[4]?⟩,
    ⟨"net.tcp.opens".toList,idTags netTags "passive".toList,values[5]?⟩,
    ⟨"net.tcp.errors".toList,idTags netTags "attemptFails".toList,values[6]?⟩,
    ⟨"net.tcp.errors".toList,idTags netTags "estabResets".toList,values[7]?⟩,
    ⟨"net.tcp.currEstab".toList,netTags,values[8]?⟩]++
  (if 12<values.length then
    [⟨"net.tcp.errors".toList,idTags netTags "inErrs".toList,values[12]?⟩] else [])++
  (if 13<values.length then
    [⟨"net.tcp.errors".toList,idTags netTags "outRsts".toList,values[13]?⟩] else [])

/-- Proc::parse_udp_stats. -/
def parseUdpStats (netTags : Tags) (buf : Token) : List Setting :=
  let values := sscanfUnsigned "Udp:".toList 4 buf
  [⟨"net.udp.datagrams".toList,v4Tags netTags "in".toList,values[0]?⟩,
    ⟨"net.udp.errors".toList,v4Tags netTags "inErrors".toList,values[2]?⟩,
    ⟨"net.udp.datagrams".toList,v4Tags netTags "out".toList,values[3]?⟩]

/-- The protocols whose lines are parsed. -/
inductive Protocol
  | ip
  | tcp
  | udp
  deriving DecidableEq

namespace Protocol

/-- The name in the format. -/
def label : Protocol → Token
  | .ip => "Ip:".toList
  | .tcp => "Tcp:".toList
  | .udp => "Udp:".toList

/-- The function that a line is given to. -/
def parse (netTags : Tags) : Protocol → Token → List Setting
  | .ip => parseIpStats netTags
  | .tcp => parseTcpStats netTags
  | .udp => parseUdpStats netTags

/-- How many numbers a line has to have. -/
def needed : Protocol → ℕ
  | .ip => 14
  | .tcp => 12
  | .udp => 4

/-- The line has the name and enough numbers after it. -/
def Complete (protocol : Protocol) (buf : Token) : Prop :=
  ∃ rest,cStr buf=protocol.label++rest ∧ NumbersFrom isSpace protocol.needed rest

end Protocol

/-- The protocol that a header announces. -/
def protocolOf (line : Token) : Option Protocol :=
  if startsWith line "Ip: ".toList then some .ip
  else if startsWith line "Tcp: ".toList then some .tcp
  else if startsWith line "Udp: ".toList then some .udp
  else none

/-- The loop of snmp_stats: the lines that are parsed. -/
def parsedLines : List Token → List (Protocol×Token)
  | [] => []
  | line::rest =>
    match protocolOf line with
    | none => parsedLines rest
    | some protocol =>
      match rest with
      | [] => []
      | buf::rest => (protocol,buf)::parsedLines rest

/-- What snmp_stats sets from net/snmp. -/
def snmpStats (netTags : Tags) : Option Token → List Setting
  | none => []
  | some text =>
    (parsedLines (bufferedLines text)).flatMap fun line => line.1.parse netTags line.2

/-- A scan assigns a number of variables exactly when the name and as many
numbers are there. -/
theorem le_length_sscanfUnsigned_iff (name : Token) {count bound : ℕ} (hpos : 0 < count)
    (hle : count≤bound) (buf : Token) :
    count ≤ (sscanfUnsigned name bound buf).length ↔
      ∃ rest,cStr buf=name++rest ∧ NumbersFrom isSpace count rest := by
  rw [sscanfUnsigned,startsWith]
  split_ifs with hname
  · obtain ⟨rest,hrest⟩ := List.isPrefixOf_iff_prefix.mp hname
    have hscan : count ≤ (scanMany scanUnsigned bound (openFile rest)).1.length ↔
        NumbersFrom isSpace count rest := le_length_scanMany_iff hle (openFile rest)
    rw [←hrest,List.drop_left]
    refine hscan.trans ⟨fun h => ⟨rest,rfl,h⟩,?_⟩
    rintro ⟨other,hother,h⟩
    rw [List.append_cancel_left hother]
    exact h
  · refine iff_of_false (by simpa using hpos.ne') ?_
    rintro ⟨rest,hrest,-⟩
    exact hname (List.isPrefixOf_iff_prefix.mpr ⟨rest,hrest.symm⟩)

/-- What a line sets has been assigned exactly when the line is complete. -/
theorem parse_isSome_iff (netTags : Tags) (protocol : Protocol) (buf : Token) :
    (∀ setting∈protocol.parse netTags buf,setting.value.isSome) ↔ protocol.Complete buf := by
  rw [Protocol.Complete]
  cases protocol with
  | ip =>
    have hlength := le_length_sscanfUnsigned_iff "Ip:".toList (by decide : 0<14)
      (by decide : 14≤19) buf
    refine Iff.trans ?_ hlength
    simp only [Protocol.parse,parseIpStats,List.forall_mem_cons,List.not_mem_nil,
      false_imp_iff,implies_true,isSome_getElem?,and_true]
    omega
  | tcp =>
    have hlength := le_length_sscanfUnsigned_iff "Tcp:".toList (by decide : 0<12)
      (by decide : 12≤14) buf
    refine Iff.trans ?_ hlength
    simp only [Protocol.parse,parseTcpStats]
    split_ifs <;> simp only [List.append_nil,List.cons_append,List.nil_append,
      List.forall_mem_cons,List.not_mem_nil,false_imp_iff,implies_true,isSome_getElem?,
      and_true] <;> omega
  | udp =>
    have hlength := le_length_sscanfUnsigned_iff "Udp:".toList (by decide : 0<4)
      (by decide : 4≤4) buf
    refine Iff.trans ?_ hlength
    simp only [Protocol.parse,parseUdpStats,List.forall_mem_cons,List.not_mem_nil,
      false_imp_iff,implies_true,isSome_getElem?,and_true]
    omega

/-- Every variable that is set has been assigned exactly when every line that is
parsed is complete. -/
theorem snmpStats_isSome_iff (netTags : Tags) (text : Token) :
    (∀ setting∈snmpStats netTags (some text),setting.value.isSome) ↔
      ∀ line∈parsedLines (bufferedLines text),line.1.Complete line.2 := by
  rw [snmpStats,List.forall_mem_flatMap]
  exact forall₂_congr fun line _ => parse_isSome_iff netTags line.1 line.2

end AtlasAgent.ProcSnmp
