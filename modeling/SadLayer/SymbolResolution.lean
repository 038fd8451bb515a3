import SadLayer.Library.Walk
import SadLayer.Module
import SadLayer.PeFacts

/-! Symbol resolution as a walk along forwarders: which exports end it, which
send it on, and how its bound and its failures look from outside. -/
namespace SadLayer.Module
open SadLayer.Library SadLayer.Pe SadLayer.Loader

variable {memory : Memory} {registry : Registry} {symbol next last : Symbol}

/-! ### Forwarders and exports, as relations -/

/-- The symbol's module exports it as a forwarder with this text. -/
inductive ForwardsTo (memory : Memory) (registry : Registry) (symbol : Symbol) :
    CString → Prop where
  | native (module : resolveModule registry symbol.moduleName = .ok index)
      (contents : (registry.modules index).contents = .native exports)
      (first : findNativeExport exports symbol = some native)
      (forwards : native.forwarder = some text) : ForwardsTo memory registry symbol text
  | pe (module : resolveModule registry symbol.moduleName = .ok index)
      (contents : (registry.modules index).contents = .pe image mapped)
      (first : findPeExport (memory.images image) symbol = .ok export_)
      (is_forwarder : export_.isForwarder = true) (forwards : export_.forwarder = some text) :
      ForwardsTo memory registry symbol text

/-- One hop: the forwarder parses, and names the next symbol. -/
def Hop (memory : Memory) (registry : Registry) (symbol next : Symbol) : Prop :=
  ∃ text forward, ForwardsTo memory registry symbol text ∧
    parseForwarder text forwarderModuleCapacity = .ok forward ∧ next = forwardSymbol forward

/-- Exactly this many hops lead from one symbol to another. -/
inductive Chain (memory : Memory) (registry : Registry) : Nat → Symbol → Symbol → Prop where
  | nil {symbol : Symbol} : Chain memory registry 0 symbol symbol
  | cons {symbol next last : Symbol} (hop : Hop memory registry symbol next) (rest : Chain memory registry hops next last) :
      Chain memory registry (hops + 1) symbol last

/-- The symbol's module exports it itself: at the address of a native export, or, when it is below
`2^64`, at the address of a PE one. -/
inductive Target (memory : Memory) (registry : Registry) (symbol : Symbol) (depth : Nat) :
    ResolvedSymbol → Prop where
  | native (module : resolveModule registry symbol.moduleName = .ok index)
      (contents : (registry.modules index).contents = .native exports)
      (first : findNativeExport exports symbol = some native)
      (direct : native.forwarder = none) :
      Target memory registry symbol depth {
        module := index
        export_ := {
          name := native.name
          forwarder := none
          ordinal := native.ordinal
          rva := 0
          isForwarder := false }
        guestAddress := native.guestAddress
        forwardDepth := depth
        isNative := true }
  | pe (module : resolveModule registry symbol.moduleName = .ok index)
      (contents : (registry.modules index).contents = .pe image mapped)
      (first : findPeExport (memory.images image) symbol = .ok export_)
      (direct : export_.isForwarder = false)
      (fits : (memory.mappings mapped).loadBase + export_.rva < 2 ^ 64) :
      Target memory registry symbol depth {
        module := index
        export_ := export_
        guestAddress := (memory.mappings mapped).loadBase + export_.rva
        forwardDepth := depth
        isNative := false }

/-! ### The lookup at one symbol -/

theorem find_pe_export_ok {image : Image} {result : Export}
    (found : findPeExport image symbol = .ok result) :
    result.rva < 2 ^ 32 ∧ result.isForwarder = result.forwarder.isSome := by
  unfold findPeExport at found
  split at found
  · exact find_export_by_ordinal_ok found
  · split at found
    · contradiction
    · exact find_export_by_name_ok found

theorem lookup_forwarded {text : CString} :
    lookupSymbol memory registry symbol = .forwarded text ↔
      ForwardsTo memory registry symbol text := by
  constructor
  · intro found
    unfold lookupSymbol at found
    split at found
    · contradiction
    · rename_i index module
      split at found
      · rename_i exports contents
        split at found
        · contradiction
        · rename_i native first
          split at found
          · rename_i forwarder forwards
            cases found
            exact .native module contents first forwards
          · contradiction
      · rename_i image mapped contents
        split at found
        · contradiction
        · rename_i export_ first
          split at found
          · rename_i forwarder is forwards
            cases found
            exact .pe module contents first is forwards
          · split at found <;> contradiction
  · intro forwards
    cases forwards with
    | native module contents first forwards =>
      simp only [lookupSymbol, module, contents, first, forwards]
    | pe module contents first is forwards =>
      simp only [lookupSymbol, module, contents, first, is, forwards]

theorem lookup_found {index guestAddress depth : Nat} {export_ : Export} {isNative : Bool} :
    lookupSymbol memory registry symbol = .found index export_ guestAddress isNative ↔
      Target memory registry symbol depth {
        module := index
        export_ := export_
        guestAddress := guestAddress
        forwardDepth := depth
        isNative := isNative } := by
  constructor
  · intro found
    unfold lookupSymbol at found
    split at found
    · contradiction
    · rename_i index module
      split at found
      · rename_i exports contents
        split at found
        · contradiction
        · rename_i native first
          split at found
          · contradiction
          · rename_i direct
            cases found
            exact .native module contents first direct
      · rename_i image mapped contents
        split at found
        · contradiction
        · rename_i export_ first
          obtain ⟨narrow, consistent⟩ := find_pe_export_ok first
          split at found
          · contradiction
          · rename_i direct
            split at found
            · contradiction
            · rename_i fits
              cases found
              refine .pe module contents first ?_ ?_
              · cases is : export_.isForwarder with
                | false => rfl
                | true =>
                  rw [is] at consistent
                  obtain ⟨text, forwards⟩ := Option.isSome_iff_exists.mp consistent.symm
                  exact absurd forwards (direct text is)
              · unfold uint64Max at fits
                omega
  · intro target
    cases target with
    | native module contents first direct =>
      simp only [lookupSymbol, module, contents, first, direct]
    | @pe _ _ mapped _ module contents first direct fits =>
      obtain ⟨narrow, -⟩ := find_pe_export_ok first
      have inside : ¬ (memory.mappings mapped).loadBase > uint64Max - export_.rva := by
        unfold uint64Max
        omega
      simp only [lookupSymbol, module, contents, first, direct, inside, ↓reduceIte]

/-! ### Resolution is a bounded walk -/

/-- A lookup as a stop of the walk: a forwarder sends it on when it parses. -/
def lookAt (memory : Memory) (registry : Registry) (symbol : Symbol) :
    Found Symbol (Nat → ResolvedSymbol) Status :=
  match lookupSymbol memory registry symbol with
  | .failed status => .stuck status
  | .found module export_ guestAddress isNative => .stop fun depth => {
      module := module
      export_ := export_
      guestAddress := guestAddress
      forwardDepth := depth
      isNative := isNative }
  | .forwarded forwarder =>
    match parseForwarder forwarder forwarderModuleCapacity with
    | .error status => .stuck status
    | .ok forward => .onward (forwardSymbol forward)

theorem look_at_onward : lookAt memory registry symbol = .onward next ↔
    Hop memory registry symbol next := by
  unfold lookAt Hop
  constructor
  · intro sent
    split at sent
    · contradiction
    · contradiction
    · rename_i forwarder found
      split at sent
      · contradiction
      · rename_i forward parsed
        cases sent
        exact ⟨forwarder, forward, lookup_forwarded.mp found, parsed, rfl⟩
  · rintro ⟨text, forward, forwards, parsed, rfl⟩
    rw [lookup_forwarded.mpr forwards]
    simp only [parsed]

theorem leads_iff_chain {hops : Nat} : Leads (lookAt memory registry) hops symbol last ↔
    Chain memory registry hops symbol last := by
  constructor
  · intro leads
    induction leads with
    | here => exact .nil
    | onward sent rest ih => exact .cons (look_at_onward.mp sent) ih
  · intro chain
    induction chain with
    | nil => exact .here
    | cons hop rest ih => exact .onward (look_at_onward.mpr hop) ih

theorem look_at_stop {depth : Nat} {resolved : ResolvedSymbol} :
    (∃ result, lookAt memory registry symbol = .stop result ∧ result depth = resolved) ↔
      Target memory registry symbol depth resolved := by
  unfold lookAt
  constructor
  · rintro ⟨result, stops, rfl⟩
    split at stops
    · contradiction
    · rename_i found
      cases stops
      exact lookup_found.mp found
    · split at stops <;> contradiction
  · intro target
    have depthIs : resolved.forwardDepth = depth := by cases target <;> rfl
    subst depthIs
    refine ⟨fun depth => { resolved with forwardDepth := depth }, ?_, rfl⟩
    rw [lookup_found.mpr target]

/-- The recursion is the walk, its depth counted from the query. -/
theorem resolve_recursive_eq_walk {depth : Nat} (hops : Nat)
    (counted : depth + hops = forwarderDepthLimit) :
    resolveSymbolRecursive memory registry symbol depth =
      (walk (lookAt memory registry) .forwarderLimit hops depth symbol).map
        fun (reached, result) => result reached := by
  induction hops generalizing depth symbol with
  | zero =>
    have within : ¬ depth > forwarderDepthLimit := by omega
    rw [resolveSymbolRecursive, walk]
    simp only [within, ↓reduceIte, lookAt]
    cases lookupSymbol memory registry symbol with
    | failed status => rfl
    | found module export_ guestAddress isNative => rfl
    | forwarded forwarder =>
      cases parsed : parseForwarder forwarder forwarderModuleCapacity with
      | error status => simp only [parsed]; rfl
      | ok forward =>
        simp only [parsed]
        rw [resolveSymbolRecursive, if_pos (by omega)]
        rfl
  | succ hops ih =>
    have within : ¬ depth > forwarderDepthLimit := by omega
    rw [resolveSymbolRecursive, walk]
    simp only [within, ↓reduceIte, lookAt]
    cases lookupSymbol memory registry symbol with
    | failed status => rfl
    | found module export_ guestAddress isNative => rfl
    | forwarded forwarder =>
      cases parsed : parseForwarder forwarder forwarderModuleCapacity with
      | error status => simp only [parsed]; rfl
      | ok forward =>
        simp only [parsed]
        exact ih (by omega)

theorem resolve_recursive_ok_iff {resolved : ResolvedSymbol} :
    resolveSymbolRecursive memory registry symbol 0 = .ok resolved ↔
      resolved.forwardDepth ≤ forwarderDepthLimit ∧
        ∃ last, Chain memory registry resolved.forwardDepth symbol last ∧
          Target memory registry last resolved.forwardDepth resolved := by
  rw [resolve_recursive_eq_walk forwarderDepthLimit (Nat.zero_add _)]
  constructor
  · intro found
    cases walked : walk (lookAt memory registry) .forwarderLimit forwarderDepthLimit 0 symbol with
    | error status => simp [walked, Except.map] at found
    | ok arrival =>
      obtain ⟨reached, result⟩ := arrival
      simp only [walked, Except.map, Except.ok.injEq] at found
      obtain ⟨made, bound, reachedIs, last, leads, stops⟩ := walk_ok_iff.mp walked
      have target := look_at_stop.mp ⟨result, stops, found⟩
      have depthIs : resolved.forwardDepth = reached := by cases target <;> rfl
      have same : made = resolved.forwardDepth := by omega
      subst same
      rw [← depthIs] at target
      exact ⟨bound, last, leads_iff_chain.mp leads, target⟩
  · rintro ⟨bound, last, chain, target⟩
    obtain ⟨result, stops, same⟩ := look_at_stop.mpr target
    rw [walk_ok_iff.mpr ⟨_, bound, rfl, last, leads_iff_chain.mpr chain, stops⟩, Nat.zero_add]
    simp only [Except.map, same]

/-- A query without a module name or a symbol leads nowhere. -/
theorem incomplete_query {depth : Nat} {resolved : ResolvedSymbol}
    (incomplete : symbol.moduleName = none ∨ (symbol.byOrdinal = false ∧ symbol.symbolName = none)) :
    ¬ Target memory registry symbol depth resolved ∧ ¬ Hop memory registry symbol next := by
  have stuck : ∃ status, lookupSymbol memory registry symbol = .failed status := by
    unfold lookupSymbol
    rcases incomplete with unnamed | ⟨byName, unnamed⟩
    · rw [unnamed]
      exact ⟨.invalidArgument, rfl⟩
    · split
      · exact ⟨_, rfl⟩
      · split
        · have nothing : ∀ exports, findNativeExport exports symbol = none := by
            intro exports
            apply List.find?_eq_none.mpr
            intro candidate _
            cases candidate.name <;> simp [byName, unnamed]
          simp only [nothing]
          exact ⟨_, rfl⟩
        · simp only [findPeExport, byName, unnamed]
          exact ⟨_, rfl⟩
  obtain ⟨status, failed⟩ := stuck
  constructor
  · intro target
    have found := lookup_found.mpr (show Target memory registry symbol depth
      { resolved with forwardDepth := depth } by cases target <;> (constructor <;> assumption))
    rw [failed] at found
    contradiction
  · rintro ⟨text, forward, forwards, -⟩
    rw [lookup_forwarded.mpr forwards] at failed
    contradiction

theorem incomplete_chain {depth : Nat} {resolved : ResolvedSymbol}
    (incomplete : symbol.moduleName = none ∨ (symbol.byOrdinal = false ∧ symbol.symbolName = none))
    (chain : Chain memory registry depth symbol last) :
    depth = 0 ∧ ¬ Target memory registry last depth resolved := by
  have stuck (next : Symbol) : ¬ Target memory registry symbol depth resolved ∧
      ¬ Hop memory registry symbol next := incomplete_query incomplete
  cases chain with
  | nil => exact ⟨rfl, (stuck symbol).1⟩
  | cons hop rest => exact absurd hop (stuck _).2

/-! ### Failures -/

theorem resolve_module_fails (registry : Registry) (name : Option CString) :
    FailsProperly (resolveModule registry name) := by
  unfold resolveModule
  split
  · split
    · exact fails_ok _
    · split
      · exact fails_error nofun
      · split
        · exact fails_error nofun
        · exact fails_ok _
  · exact fails_error nofun

theorem parse_ordinal_fails (symbol : CString) : FailsProperly (parseOrdinal symbol) := by
  unfold parseOrdinal
  split
  · split
    · exact fails_error nofun
    · split
      · exact fails_error nofun
      · exact fails_ok _
  · exact fails_ok _

theorem parse_forwarder_fails (text : CString) (capacity : Nat) :
    FailsProperly (parseForwarder text capacity) := by
  unfold parseForwarder
  split
  · exact fails_error nofun
  · rename_i moduleName name parts
    split
    · exact fails_error nofun
    · split
      · exact fails_error nofun
      · split
        · rename_i status rejected
          exact fails_error (parse_ordinal_fails name status rejected)
        · exact fails_ok _

theorem find_pe_export_fails (image : Image) (symbol : Symbol) :
    FailsProperly (findPeExport image symbol) := by
  unfold findPeExport
  split
  · exact find_export_by_ordinal_fails image symbol.ordinal
  · split
    · exact fails_error nofun
    · exact find_export_by_name_fails image _

theorem lookup_symbol_fails {status : Status}
    (failed : lookupSymbol memory registry symbol = .failed status) : status ≠ .ok := by
  unfold lookupSymbol at failed
  split at failed
  · rename_i rejected
    cases failed
    exact resolve_module_fails registry symbol.moduleName status rejected
  · split at failed
    · split at failed
      · cases failed
        nofun
      · split at failed <;> contradiction
    · split at failed
      · rename_i rejected
        cases failed
        exact find_pe_export_fails _ symbol status rejected
      · split at failed
        · contradiction
        · split at failed
          · cases failed
            nofun
          · contradiction

theorem resolve_recursive_fails (depth : Nat) :
    FailsProperly (resolveSymbolRecursive memory registry symbol depth) := by
  fun_induction resolveSymbolRecursive memory registry symbol depth with
  | case1 symbol depth beyond => exact fails_error nofun
  | case2 symbol depth within status failed => exact fails_error (lookup_symbol_fails failed)
  | case3 symbol depth within module export_ guestAddress isNative found => exact fails_ok _
  | case4 symbol depth within forwarder forwarded status rejected =>
    exact fails_error (parse_forwarder_fails forwarder _ status rejected)
  | case5 symbol depth within forwarder forwarded forward parsed ih => exact ih

theorem resolve_symbol_ok_iff {result resolved : ResolvedSymbol} :
    resolveSymbol memory registry symbol result = (.ok, resolved) ↔
      resolved.forwardDepth ≤ forwarderDepthLimit ∧
        ∃ last, Chain memory registry resolved.forwardDepth symbol last ∧
          Target memory registry last resolved.forwardDepth resolved := by
  unfold resolveSymbol
  split
  · rename_i incomplete
    simp only [Prod.mk.injEq, reduceCtorEq, false_and, false_iff]
    rintro ⟨-, last, chain, target⟩
    exact (incomplete_chain incomplete chain).2 target
  · rw [← resolve_recursive_ok_iff]
    cases found : resolveSymbolRecursive memory registry symbol 0 with
    | error status =>
      have failing := resolve_recursive_fails 0 status found
      simp [failing]
    | ok found => simp

theorem resolve_symbol_limit {result : ResolvedSymbol}
    (chain : Chain memory registry (forwarderDepthLimit + 1) symbol last) :
    (resolveSymbol memory registry symbol result).1 = .forwarderLimit := by
  unfold resolveSymbol
  split
  · rename_i incomplete
    have empty : forwarderDepthLimit + 1 = 0 :=
      (@incomplete_chain _ _ _ _ _ result incomplete chain).1
    contradiction
  · rw [resolve_recursive_eq_walk forwarderDepthLimit (Nat.zero_add _),
      walk_exhausted (leads_iff_chain.mpr chain)]
    rfl

/-- Every query, over every registry: it succeeds exactly when at most 16 forwarders lead to an
export, and then with that export; a longer chain, so every cycle, meets the limit; and a failure
leaves the caller's result alone. -/
theorem symbol_resolution (memory : Memory) (registry : Registry) (symbol : Symbol)
    (result : ResolvedSymbol) :
    (∀ resolved, resolveSymbol memory registry symbol result = (.ok, resolved) ↔
      resolved.forwardDepth ≤ forwarderDepthLimit ∧
        ∃ last, Chain memory registry resolved.forwardDepth symbol last ∧
          Target memory registry last resolved.forwardDepth resolved) ∧
      (∀ last, Chain memory registry (forwarderDepthLimit + 1) symbol last →
        (resolveSymbol memory registry symbol result).1 = .forwarderLimit) ∧
      (∀ hops around turn, Chain memory registry hops symbol turn →
        Chain memory registry (around + 1) turn turn →
        (resolveSymbol memory registry symbol result).1 = .forwarderLimit) ∧
      ((resolveSymbol memory registry symbol result).1 ≠ .ok →
        (resolveSymbol memory registry symbol result).2 = result) := by
  refine ⟨fun resolved => resolve_symbol_ok_iff, fun last => resolve_symbol_limit, ?_, ?_⟩
  · intro hops around turn enters returns
    obtain ⟨last, long⟩ := Leads.cycle (leads_iff_chain.mpr enters) (leads_iff_chain.mpr returns)
      (forwarderDepthLimit + 1)
    exact resolve_symbol_limit (leads_iff_chain.mp long)
  · intro failed
    unfold resolveSymbol at failed ⊢
    split
    · rfl
    · rename_i complete
      rw [if_neg complete] at failed
      cases found : resolveSymbolRecursive memory registry symbol 0 with
      | error status => rfl
      | ok resolved => simp [found] at failed

end SadLayer.Module
