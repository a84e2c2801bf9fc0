import AtlasAgent.NetstatColumns
import Mathlib.Algebra.BigOperators.Group.List.Basic
import Mathlib.Algebra.Order.Ring.Int

/-!
# Proc::parse_tcp_connections

The connections in net/tcp and net/tcp6 are counted by their states. After the
header each piece that fgets reads is a row, and its fourth field, a
hexadecimal number, is the state.
-/

namespace AtlasAgent.ProcConnections

open DecimalText MountPoints NetTokens NetstatColumns ProcNet ScanfText SpacedText TextFields
open NumberText hiding startsWith toInt64

/-- The text after an optional prefix of hexadecimal numbers. -/
def skipHexPrefix : Token → Token
  | '0' :: 'x' ::c::rest => if isHexDigit c then c::rest else '0' :: 'x' ::c::rest
  | '0' :: 'X' ::c::rest => if isHexDigit c then c::rest else '0' :: 'X' ::c::rest
  | text => text

/-- strtol in base sixteen. -/
def strtolHex (text : Token) : ℤ :=
  let (negative,rest) := scanSign (skipSpace text)
  clampLong (signed negative (hexValue ((skipHexPrefix rest).takeWhile isHexDigit)))

/-- A long cast to an int. -/
def toInt (value : ℤ) : ℤ := value.bmod (2^32)

/-- kConnStates. -/
def kConnStates : ℕ := 11

/-- The state of a row with enough fields. -/
def rowState (line : Token) : Option ℤ := ((tokens line)[3]?).map fun st => toInt (strtolHex st)

/-- The body of the loop of sum_tcp_states. -/
def countRow (connections : List ℕ) (line : Token) : List ℕ :=
  match rowState line with
  | none => connections
  | some state =>
    if 0 < state ∧ state≤kConnStates then connections.modify (state-1).toNat (·+1) else connections

/-- The rows that are read of a file with an array of 2048 characters. -/
def rows (text : Token) : List Token := (fgetsAll 2047 [] text).tail

/-- sum_tcp_states. -/
def sumTcpStates (text : Token) (connections : List ℕ) : List ℕ :=
  (rows text).foldl countRow connections

/-- The states in the order of make_tcp_gauges. -/
def tcpStates : List Token :=
  ["established","synSent","synRecv","finWait1","finWait2","timeWait","close","closeWait",
    "lastAck","listen","closing"].map String.toList

/-- A gauge of make_tcp_gauges that has been set. -/
structure TcpGauge where
  tags : Tags
  value : ℕ
  deriving DecidableEq

/-- The tags of tcpstate_gauge. -/
def tcpstateTags (netTags : Tags) (protocol state : Token) : Tags :=
  ((∅ : Tags).insert "proto".toList protocol).insert "id".toList state ∪ netTags

/-- update_tcpstates_for_proto with the gauges of the protocol. -/
def updateTcpstatesForProto (netTags : Tags) (protocol : Token) : Option Token → List TcpGauge
  | none => []
  | some text =>
    List.zipWith (fun state value => ⟨tcpstateTags netTags protocol state,value⟩) tcpStates
      (sumTcpStates text (List.replicate kConnStates 0))

/-- Proc::parse_tcp_connections. -/
def parseTcpConnections (netTags : Tags) (tcp tcp6 : Option Token) : List TcpGauge :=
  updateTcpstatesForProto netTags "v4".toList tcp++updateTcpstatesForProto netTags "v6".toList tcp6

/-- A row counts for the state of its number, and for no other. -/
theorem getElem?_countRow (connections : List ℕ) (line : Token) (i : ℕ) (hi : i<kConnStates) :
    (countRow connections line)[i]?=
      (connections[i]?).map fun count => count+if rowState line=some (i+1 : ℤ) then 1 else 0 := by
  rw [countRow]
  cases rowState line with
  | none => simp
  | some state =>
    dsimp only
    rw [kConnStates] at hi ⊢
    by_cases hstate : 0 < state ∧ state≤(11 : ℕ)
    · rw [if_pos hstate,List.getElem?_modify]
      have hsame : some state=some (i+1 : ℤ) ↔ (state-1).toNat=i := by
        rw [Option.some.injEq]
        omega
      refine congrArg (Option.map · connections[i]?) (funext fun count => ?_)
      simp only [hsame]
      split <;> rfl
    · have hne : ¬some state=some (i+1 : ℤ) := fun heq => by
        rw [Option.some.injEq] at heq
        omega
      rw [if_neg hstate,if_neg hne]
      simp

/-- The rows count up. -/
theorem getElem?_foldl_countRow (lines : List Token) (connections : List ℕ) (i : ℕ)
    (hi : i<kConnStates) :
    (lines.foldl countRow connections)[i]?=
      (connections[i]?).map (·+lines.countP fun line => rowState line=some (i+1 : ℤ)) := by
  induction lines generalizing connections with
  | nil => simp
  | cons line lines ih =>
    rw [List.foldl_cons,ih,getElem?_countRow _ _ _ hi,Option.map_map,List.countP_cons]
    congr 1
    funext count
    simp only [Function.comp_apply,decide_eq_true_eq]
    omega

/-- The number of rows in a state. -/
def countOf (text : Token) (state : ℕ) : ℕ :=
  (rows text).countP fun line => rowState line=some (state : ℤ)

theorem length_countRow (connections : List ℕ) (line : Token) :
    (countRow connections line).length=connections.length := by
  rw [countRow]
  cases rowState line with
  | none => rfl
  | some state =>
    dsimp only
    split
    · exact List.length_modify ..
    · rfl

/-- Every element of the array is the number of rows in its state. -/
theorem sumTcpStates_eq (text : Token) :
    sumTcpStates text (List.replicate kConnStates 0)=
      (List.range kConnStates).map fun i => countOf text (i+1) := by
  have hlength : ∀ (lines : List Token) (connections : List ℕ),
      (lines.foldl countRow connections).length=connections.length := by
    intro lines
    induction lines with
    | nil => exact fun _ => rfl
    | cons line lines ih => exact fun connections => (ih _).trans (length_countRow _ _)
  refine List.ext_getElem? fun i => ?_
  by_cases hi : i<kConnStates
  · rw [sumTcpStates,getElem?_foldl_countRow _ _ _ hi,List.getElem?_map,List.getElem?_range hi,
      List.getElem?_replicate,if_pos hi]
    simp only [Option.map_some,Nat.zero_add,countOf,Nat.cast_add,Nat.cast_one]
  · rw [List.getElem?_eq_none,List.getElem?_eq_none]
    · rw [List.length_map,List.length_range]
      omega
    · rw [sumTcpStates,hlength,List.length_replicate]
      omega

/-- A row is in at most one of the states. -/
theorem sum_indicator (state : Option ℤ) (count : ℕ) :
    ((List.range count).map fun i : ℕ => if state=some ((i : ℤ)+1) then 1 else 0).sum=
      if ∃ i<count,state=some ((i : ℤ)+1) then 1 else 0 := by
  induction count with
  | zero => simp
  | succ count ih =>
    rw [List.range_succ,List.map_append,List.sum_append,ih,List.map_singleton,List.sum_singleton]
    by_cases hlast : state=some ((count : ℤ)+1)
    · have hnone : ¬∃ i<count,state=some ((i : ℤ)+1) := by
        rintro ⟨i,hi,hstate⟩
        rw [hlast,Option.some.injEq] at hstate
        omega
      rw [if_neg hnone,if_pos hlast,if_pos ⟨count,Nat.lt_succ_self count,hlast⟩]
    · have hsame : (∃ i<count+1,state=some ((i : ℤ)+1)) ↔ ∃ i<count,state=some ((i : ℤ)+1) := by
        constructor
        · rintro ⟨i,hi,hstate⟩
          have hne : i≠count := by rintro rfl; exact hlast hstate
          exact ⟨i,by omega,hstate⟩
        · rintro ⟨i,hi,hstate⟩
          exact ⟨i,by omega,hstate⟩
      rw [if_neg hlast,Nat.add_zero]
      simp only [hsame]

/-- The counts of the states make up all of the rows with a state that there is
a gauge for. -/
theorem sum_countP {α : Type*} (lines : List α) (state : α → Option ℤ) (count : ℕ) :
    ((List.range count).map fun i : ℕ =>
      lines.countP fun line => state line=some ((i : ℤ)+1)).sum=
        lines.countP fun line => ∃ i<count,state line=some ((i : ℤ)+1) := by
  induction lines with
  | nil => simp
  | cons line lines ih =>
    have hone := sum_indicator (state line) count
    simp only [List.countP_cons,decide_eq_true_eq,List.sum_map_add,ih,hone]

/-- A row of net/tcp. The kernel pads it with blanks to a fixed width. -/
structure Row where
  /-- The blanks in front of the number of the row. -/
  indent : ℕ
  slot : Token
  localAddress : Token
  remoteAddress : Token
  state : ℕ
  /-- The fields after the state, with the blanks in front of them. -/
  rest : List (ℕ×Token)
  /-- The blanks behind the last field. -/
  padding : ℕ

/-- A state in two hexadecimal digits. -/
def hexText (state : ℕ) : Token :=
  [(Nat.digitChar (state/16)).toUpper,(Nat.digitChar (state%16)).toUpper]

/-- The text of a row. -/
def Row.text (row : Row) : Token :=
  List.replicate row.indent ' '++row.slot++
    spread ((0,row.localAddress)::(0,row.remoteAddress)::(0,hexText row.state)::row.rest)++
    List.replicate row.padding ' '

/-- The other fields have no spaces and no null, and a call of fgets reads the
row. -/
structure Row.WellFormed (row : Row) : Prop where
  slot : Visible row.slot
  localAddress : Visible row.localAddress
  remoteAddress : Visible row.remoteAddress
  rest : ∀ field∈row.rest.map Prod.snd,Visible field
  noNull : '\x00' ∉ row.text
  state : row.state<256
  short : row.text.length<2047

/-- A file of connections. -/
structure Table where
  header : Token
  rows : List Row

/-- The text of a file. -/
def Table.text (table : Table) : Token := unlines (table.header::table.rows.map Row.text)

/-- The header is one line that a call of fgets reads, too. -/
structure Table.WellFormed (table : Table) : Prop where
  headerLine : '\n' ∉ table.header
  headerShort : table.header.length<2047
  rows : ∀ row∈table.rows,row.WellFormed

/-- The states with a name, by the numbers that the kernel has for them. -/
def namedStates : List (ℕ×Token) :=
  [(1,"established".toList),(2,"synSent".toList),(3,"synRecv".toList),(4,"finWait1".toList),
    (5,"finWait2".toList),(6,"timeWait".toList),(7,"close".toList),(8,"closeWait".toList),
    (9,"lastAck".toList),(10,"listen".toList),(11,"closing".toList)]

/-- The gauges of a protocol: one for each state, whose value is the number of
rows in that state, and none without a file. -/
def protocolGauges (netTags : Tags) (protocol : Token) : Option Table → List TcpGauge
  | none => []
  | some table => namedStates.map fun state =>
    ⟨((∅ : Tags).insert "proto".toList protocol).insert "id".toList state.2 ∪ netTags,
      table.rows.countP fun row => row.state=state.1⟩

set_option maxRecDepth 4000 in
/-- The text of a state is read as the state. -/
theorem hexText_spec : ∀ state<256,toInt (strtolHex (hexText state))=state ∧
    (hexText state).all (fun c => !isSpace c)=true := by decide +kernel

theorem visible_hexText {state : ℕ} (h : state<256) : Visible (hexText state) :=
  ⟨by simp [hexText],noSpace_of_all (hexText_spec state h).2⟩

/-- A visible field is kept as it is by the split. -/
theorem not_isSeparator {field : Token} (h : Visible field) :
    decide (field≠[])=true ∧ ∀ c∈field,isSeparator c=false := by
  refine ⟨decide_eq_true h.nonempty,fun c hc => ?_⟩
  have hspace := h.noSpace c hc
  cases hseparates : isSeparator c with
  | false => rfl
  | true =>
    rw [isSeparator,Bool.or_eq_true,Bool.or_eq_true,decide_eq_true_eq,decide_eq_true_eq,
      decide_eq_true_eq] at hseparates
    obtain (rfl|rfl)|rfl := hseparates <;> exact absurd hspace (by decide)

section Table

variable {row : Row}

/-- The fields of a row are read as they were written. -/
theorem Row.WellFormed.rowState (h : row.WellFormed) :
    rowState (row.text++['\n'])=some (row.state : ℤ) := by
  have hfields : ∀ field∈row.slot::((0,row.localAddress)::(0,row.remoteAddress)::
      (0,hexText row.state)::row.rest).map Prod.snd,
        decide (field≠[])=true ∧ ∀ c∈field,isSeparator c=false := by
    simp only [List.map_cons,List.forall_mem_cons]
    exact ⟨not_isSeparator h.slot,not_isSeparator h.localAddress,not_isSeparator h.remoteAddress,
      not_isSeparator (visible_hexText h.state),fun field hfield =>
        not_isSeparator (h.rest field hfield)⟩
  rw [ProcConnections.rowState,tokens_newline,tokens,cStr,takeWhile_ne_of_not_mem h.noNull,Row.text,
    filter_splitOnP_append_replicate (by decide) (by decide),
    filter_splitOnP_spread (by decide) (by decide) hfields row.indent]
  exact congrArg some (hexText_spec row.state h.state).1

theorem visible_not_break {field : Token} (h : Visible field) : '\n' ∉ field :=
  h.not_mem (by decide)

/-- A row is one line. -/
theorem Row.WellFormed.not_mem (h : row.WellFormed) : '\n' ∉ row.text := by
  have hspread : '\n' ∉ spread ((0,row.localAddress)::(0,row.remoteAddress)::
      (0,hexText row.state)::row.rest) := by
    refine not_mem_spread (by decide) ?_
    simp only [List.map_cons,List.forall_mem_cons]
    exact ⟨visible_not_break h.localAddress,visible_not_break h.remoteAddress,
      visible_not_break (visible_hexText h.state),fun field hfield =>
        visible_not_break (h.rest field hfield)⟩
  rw [Row.text]
  simp only [List.mem_append,List.mem_replicate,not_or,not_and]
  exact ⟨⟨⟨fun _ => by decide,visible_not_break h.slot⟩,hspread⟩,fun _ => by decide⟩

/-- The rows of a table are read one by one. -/
theorem Table.WellFormed.rows_text {table : Table} (h : table.WellFormed) :
    ProcConnections.rows table.text=table.rows.map fun row => row.text++['\n'] := by
  have hlines : ∀ line∈table.header::table.rows.map Row.text,'\n' ∉ line ∧ line.length<2047 := by
    intro line hline
    obtain rfl|hline := List.mem_cons.mp hline
    · exact ⟨h.headerLine,h.headerShort⟩
    · obtain ⟨row,hrow,rfl⟩ := List.mem_map.mp hline
      exact ⟨(h.rows row hrow).not_mem,(h.rows row hrow).short⟩
  rw [ProcConnections.rows,Table.text,fgetsAll_unlines hlines,List.map_cons,List.tail_cons,
    List.map_map]
  rfl

theorem updateTcpstatesForProto_text (netTags : Tags) (protocol : Token) {file : Option Table}
    (h : ∀ table∈file,table.WellFormed) :
    updateTcpstatesForProto netTags protocol (file.map Table.text)=
      protocolGauges netTags protocol file := by
  cases file with
  | none => rfl
  | some table =>
    have htable : table.WellFormed := h table rfl
    have hcount : ∀ i,countOf table.text (i+1)=table.rows.countP fun row => row.state=i+1 := by
      intro i
      rw [countOf,htable.rows_text,List.countP_map]
      refine List.countP_congr fun row hrow => ?_
      rw [Function.comp_apply,(htable.rows row hrow).rowState,decide_eq_true_eq,decide_eq_true_eq,
        Option.some.injEq,Nat.cast_inj]
    rw [Option.map_some,updateTcpstatesForProto,sumTcpStates_eq]
    simp only [hcount]
    rfl

/-- The values of the gauges make up the rows in a state with a name. -/
theorem sum_protocolGauges (netTags : Tags) (protocol : Token) (table : Table) :
    ((protocolGauges netTags protocol (some table)).map (·.value)).sum=
      table.rows.countP fun row => 1 ≤ row.state ∧ row.state≤11 := by
  have hvalues : (protocolGauges netTags protocol (some table)).map (·.value)=
      (List.range kConnStates).map fun i : ℕ =>
        table.rows.countP fun row => some (row.state : ℤ)=some ((i : ℤ)+1) := by
    have hstate : ∀ (i : ℕ) (row : Row),some (row.state : ℤ)=some ((i : ℤ)+1) ↔ row.state=i+1 := by
      intro i row
      rw [Option.some.injEq]
      omega
    simp only [hstate]
    rfl
  have hstates : ∀ row : Row,(∃ i<kConnStates,some (row.state : ℤ)=some ((i : ℤ)+1)) ↔
      1 ≤ row.state ∧ row.state≤11 := by
    intro row
    constructor
    · rintro ⟨i,hi,hstate⟩
      rw [Option.some.injEq] at hstate
      rw [kConnStates] at hi
      omega
    · intro hrange
      refine ⟨row.state-1,?_,?_⟩
      · rw [kConnStates]
        omega
      · rw [Option.some.injEq]
        omega
  rw [hvalues,sum_countP table.rows (fun row => some (row.state : ℤ))]
  simp only [hstates]

/-- The gauges of each protocol whose file is there show, for every state, how
many of its connections are in it; together they make up every connection in a
state that there is a gauge for, and a file that is not there sets nothing. -/
theorem parseTcpConnections_tables (netTags : Tags) {tcp tcp6 : Option Table}
    (h : ∀ table∈tcp,table.WellFormed) (h6 : ∀ table∈tcp6,table.WellFormed) :
    parseTcpConnections netTags (tcp.map Table.text) (tcp6.map Table.text)=
      protocolGauges netTags "v4".toList tcp++protocolGauges netTags "v6".toList tcp6 ∧
    ∀ (protocol : Token) (table : Table),
      ((protocolGauges netTags protocol (some table)).map (·.value)).sum=
        table.rows.countP fun row => 1 ≤ row.state ∧ row.state≤11 := by
  refine ⟨?_,sum_protocolGauges netTags⟩
  rw [parseTcpConnections,updateTcpstatesForProto_text netTags _ h,
    updateTcpstatesForProto_text netTags _ h6]

end Table

/-- A padded row in the given state. -/
def rowIn (state : ℕ) : Row where
  indent := 3
  slot := "0:".toList
  localAddress := "00000000:1BBD".toList
  remoteAddress := "00000000:0000".toList
  state := state
  rest := [(0,"00000000:00000000".toList),(0,"60004".toList),(7,"0".toList),(0,"49156".toList)]
  padding := 21

/-- Two listening connections, one that is established and one in a state
without a name. -/
def listenTable : Table := ⟨"  sl  local_address st   ".toList,[10,1,12,10].map rowIn⟩

theorem wellFormed_rowIn {state : ℕ} (h : state∈[10,1,12,10]) : (rowIn state).WellFormed := by
  have hvisible : ∀ field∈["0:","00000000:1BBD","00000000:0000","00000000:00000000","60004","0",
      "49156"].map String.toList,Visible field := by decide
  have hnumbers : ∀ number∈[10,1,12,10],'\x00' ∉ (rowIn number).text ∧ number<256 ∧
      (rowIn number).text.length<2047 := by decide +kernel
  obtain ⟨hnull,hstate,hshort⟩ := hnumbers state h
  simp only [List.map_cons,List.map_nil,List.forall_mem_cons] at hvisible
  obtain ⟨hslot,hlocal,hremote,hrest⟩ := hvisible
  refine ⟨hslot,hlocal,hremote,?_,hnull,hstate,hshort⟩
  simp only [rowIn,List.map_cons,List.map_nil,List.forall_mem_cons]
  exact hrest

theorem wellFormed_listenTable : listenTable.WellFormed where
  headerLine := by decide
  headerShort := by decide
  rows row hrow := by
    obtain ⟨state,hstate,rfl⟩ := List.mem_map.mp hrow
    exact wellFormed_rowIn hstate

/-- Of the two files either one may be missing, and both. -/
theorem parseTcpConnections_rowIn :
    let set := fun tcp tcp6 => (parseTcpConnections ∅ tcp tcp6).map fun gauge =>
      (gauge.tags.lookup "proto".toList,gauge.value)
    set (some listenTable.text) none=[1,0,0,0,0,0,0,0,0,2,0].map (some "v4".toList,·) ∧
      set none (some listenTable.text)=[1,0,0,0,0,0,0,0,0,2,0].map (some "v6".toList,·) ∧
      set none none=[] ∧
      ((protocolGauges ∅ "v6".toList (some listenTable)).map (·.value)).sum=3 := by
  intro set
  have hfile : ∀ table∈some listenTable,table.WellFormed := by
    rintro table ⟨rfl⟩
    exact wellFormed_listenTable
  have hnone : ∀ table∈(none : Option Table),table.WellFormed := fun table hmem => by cases hmem
  have hv4 := (parseTcpConnections_tables ∅ hfile hnone).1
  have hv6 := (parseTcpConnections_tables ∅ hnone hfile).1
  have hmissing := (parseTcpConnections_tables ∅ hnone hnone).1
  have hsum := (parseTcpConnections_tables ∅ hfile hnone).2 "v6".toList listenTable
  rw [Option.map_some,Option.map_none] at hv4 hv6
  rw [Option.map_none] at hmissing
  refine ⟨?_,?_,?_,hsum.trans (by decide)⟩
  · dsimp only [set]
    rw [hv4]
    decide
  · dsimp only [set]
    rw [hv6]
    decide
  · dsimp only [set]
    rw [hmissing]
    rfl

end AtlasAgent.ProcConnections
