import AtlasAgent.NetDevReads
import AtlasAgent.ProcSnmp

/-!
# Values that are set from a line

Six functions of Proc set meters from the lines of four files under net/: for
which contents they only set what they have found on the line that they process,
and only look at tokens that the line has.
-/

namespace AtlasAgent.LineValues

open MountPoints NetDevReads NetTokens ProcNet ProcSnmp ScanMarks ScanfText TextFields

/-- socket_stats stays within its tokens exactly when the name of the memory is
not the last of them. -/
theorem socketStats_isSome_iff (pageSize : ℕ) (text : Token) :
    (socketStats pageSize (some text)).isSome ↔
      ∀ line,(bufferedLines text).find? (startsWith · "TCP:".toList)=some line →
        (tokens line).getLast?≠some "mem".toList := by
  rw [socketStats]
  cases (bufferedLines text).find? (startsWith · "TCP:".toList) with
  | none => simp
  | some line =>
    dsimp only
    rw [alongside_memPass_isSome_iff]
    simp only [Option.some_inj,forall_eq']

/-- netstat_stats stays within its values exactly when every tracked header has
an index of theirs. -/
theorem netstatStats_inRange_iff (netTags : Tags) (text : Token) :
    netstatStats netTags (some text)≠.outOfRange ↔
      ∀ header values rest,fromHeader text=header::values::rest →
        ∀ k name,(tokens header)[k]?=some name → Tracked name → k < (tokens values).length := by
  rw [netstatStats]
  rcases fromHeader text with _|⟨header,_|⟨values,rest⟩⟩
  · simp
  · simp
  · have hloop := alongside_headerPass_isSome_iff (tokens header) (tokens values) ⟨0,0,0⟩
    dsimp only
    cases hresult : IndexedColumns.alongside headerPass (tokens values) 0 (tokens header)
        ⟨0,0,0⟩ with
    | none =>
      rw [hresult] at hloop
      refine iff_of_false (fun h => h rfl) fun h => ?_
      exact absurd (hloop.mpr (h header values rest rfl)) (by simp)
    | some ecn =>
      rw [hresult] at hloop
      refine iff_of_true (fun h => by cases h) ?_
      rintro _ _ _ ⟨⟩
      exact hloop.mp rfl

/-- For every content of the four files: what is set on a meter has been found
on the line, and every index is one of the tokens, exactly when the lines are
long enough. -/
theorem line_values_iff (netTags : Tags) (indeterminate : Locals) (pageSize : ℕ)
    (dev snmp sockstat netstat : Token) :
    ((∀ s,Reached netTags indeterminate dev s → s.1.eof=false →
        LineSound netTags indeterminate s.1) ↔
      ∀ s,Reached netTags indeterminate dev s → s.1.eof=false → EnoughNumbers s.1) ∧
    ((∀ setting∈snmpStats netTags (some snmp),setting.value.isSome) ↔
      ∀ line∈parsedLines (bufferedLines snmp),line.1.Complete line.2) ∧
    ((socketStats pageSize (some sockstat)).isSome ↔
      ∀ line,(bufferedLines sockstat).find? (startsWith · "TCP:".toList)=some line →
        (tokens line).getLast?≠some "mem".toList) ∧
    (netstatStats netTags (some netstat)≠.outOfRange ↔
      ∀ header values rest,fromHeader netstat=header::values::rest →
        ∀ k name,(tokens header)[k]?=some name → Tracked name → k < (tokens values).length) :=
  ⟨forall₃_congr fun s _ _ => lineSound_iff netTags indeterminate s.1,
    snmpStats_isSome_iff netTags snmp,socketStats_isSome_iff pageSize sockstat,
    netstatStats_inRange_iff netTags netstat⟩

/-- Short lines: variables that no scan has assigned are set on meters, and
tokens are read that the lines do not have. -/
theorem short_lines :
    (∃ s,Reached ∅ unset "\n\nlo: 1 2\n".toList s ∧ s.1.eof=false ∧
      none∈handleUses s.1) ∧
    (∃ setting∈snmpStats ∅ (some "Ip: Forwarding\nIp: 1 2 3\n".toList),setting.value=none) ∧
    socketStats 4096 (some "TCP: inuse 5 mem\n".toList)=none ∧
    netstatStats ∅ (some "IpExt: InCEPkts\nIpExt:\n".toList)=.outOfRange := by
  refine ⟨⟨_,.refl,by decide +kernel,by decide +kernel⟩,?_,by decide +kernel,by decide +kernel⟩
  exact ⟨⟨"net.ip.discards".toList,v4Tags ∅ "in".toList,none⟩,by decide +kernel,rfl⟩

end AtlasAgent.LineValues
