import LoomKernels.Host.RaggedPrefill
import LoomKernels.Host.Gather

/-!
# A prefill row is a decode of its causal prefix

Row `i` of a request with `qo_len` query rows and `kv_len` tokens sees the first
`kv_len - qo_len + i + 1` tokens of the request and nothing else. The ragged reference therefore
performs the operations of a single decode over these tokens, whatever the operations are
(`prefillRow_eq_decode`), so that a row may be computed as soon as its own token is there, and
the numbers of later tokens and of other requests cannot reach it.
-/

namespace LoomKernels

section Prefix

variable {F B : Type} (ops : FloatOps F B)

/-- The query of a row, with all its heads. -/
def rowQuery (spec : Bf16RaggedPrefillSpec) (query : Slice B) (row : Nat) : Slice B :=
  query.window (row * spec.numQueryHeads * singleDecodeHeadDim)
    (spec.numQueryHeads * singleDecodeHeadDim)

/-- The keys or values of `tokens` tokens from `start` on, with all their heads. -/
def tokenRows (spec : Bf16RaggedPrefillSpec) (kv : Slice B) (start tokens : Nat) : Slice B :=
  kv.window (start * spec.numKvHeads * singleDecodeHeadDim)
    (tokens * spec.numKvHeads * singleDecodeHeadDim)

/-- The number of tokens that row `i` of a request sees. -/
theorem causalCount_row (qoIndptr : Slice Int32) (kvLen request i : Nat) :
    causalCount qoIndptr kvLen request (indptrStart qoIndptr request + i) =
      kvLen - indptrLen qoIndptr request + i + 1 := by
  rw [causalCount, Nat.add_sub_cancel_left]

/-- The state of row `i` of a request and a head: the attention of the causal prefix. -/
theorem RaggedValid.rowState_prefix {spec : Bf16RaggedPrefillSpec} {qoIndptr kvIndptr : Slice Int32}
    (valid : RaggedValid spec qoIndptr kvIndptr) (query key value : Nat → B) {request i head : Nat}
    (hr : request < spec.batchSize) (hi : i < indptrLen qoIndptr request)
    (hh : head < spec.numQueryHeads) :
    spec.rowState ops query key value qoIndptr kvIndptr
        ((indptrStart qoIndptr request + i) * spec.numQueryHeads + head) =
      ops.attend query key value
        (((indptrStart qoIndptr request + i) * spec.numQueryHeads + head) * 128)
        (fun token => (token * spec.numKvHeads + head / spec.gqaGroupSize) * 128)
        (indptrStart kvIndptr request)
        (indptrStart kvIndptr request +
          (indptrLen kvIndptr request - indptrLen qoIndptr request + i + 1)) := by
  have inside : indptrStart qoIndptr request + i < indptrStart qoIndptr (request + 1) := by
    unfold indptrLen at hi
    omega
  rw [Bf16RaggedPrefillSpec.rowState, row_div hh, row_mod hh,
    valid.qo.requestOf_eq hr (Nat.le_add_right _ _) inside, raggedCausalEnd, causalCount_row]

/-- The rows of a request are rows of the buffer. -/
theorem RaggedValid.row_lt {spec : Bf16RaggedPrefillSpec} {qoIndptr kvIndptr : Slice Int32}
    (valid : RaggedValid spec qoIndptr kvIndptr) {request i head : Nat}
    (hr : request < spec.batchSize) (hi : i < indptrLen qoIndptr request)
    (hh : head < spec.numQueryHeads) :
    (indptrStart qoIndptr request + i) * spec.numQueryHeads + head < spec.lseNumel := by
  have := valid.qo.start_le_total (show request + 1 ≤ spec.batchSize from hr)
  have : indptrStart qoIndptr request + i < spec.nnzQo := by
    unfold indptrLen at hi
    omega
  exact rowMajor_lt this hh

/-- A component of a head of a row's query. -/
theorem rowQuery_get (spec : Bf16RaggedPrefillSpec) (query : Slice B) (row head c : Nat) :
    (rowQuery spec query row).get (head * 128 + c) =
      query.get ((row * spec.numQueryHeads + head) * 128 + c) := by
  have position : row * spec.numQueryHeads * 128 + (head * 128 + c) =
      (row * spec.numQueryHeads + head) * 128 + c := by ring
  rw [← position]
  rfl

/-- A component of a head of a token. -/
theorem tokenRows_get (spec : Bf16RaggedPrefillSpec) (kv : Slice B) (start tokens t kvHead c : Nat) :
    (tokenRows spec kv start tokens).get ((t * spec.numKvHeads + kvHead) * 128 + c) =
      kv.get (((start + t) * spec.numKvHeads + kvHead) * 128 + c) := by
  have position : start * spec.numKvHeads * 128 + ((t * spec.numKvHeads + kvHead) * 128 + c) =
      ((start + t) * spec.numKvHeads + kvHead) * 128 + c := by ring
  rw [← position]
  rfl

/-- Equal queries are equal in every head. -/
theorem rowQuery_same {spec : Bf16RaggedPrefillSpec} {query query' : Slice B} {row head c : Nat}
    (same : (rowQuery spec query row).Same (rowQuery spec query' row))
    (hh : head < spec.numQueryHeads) (hc : c < 128) :
    query.get ((row * spec.numQueryHeads + head) * 128 + c) =
      query'.get ((row * spec.numQueryHeads + head) * 128 + c) := by
  rw [← rowQuery_get, ← rowQuery_get]
  exact same.2 _ (rowMajor_lt hh hc)

/-- Equal tokens are equal in every head. -/
theorem tokenRows_same {spec : Bf16RaggedPrefillSpec} {kv kv' : Slice B}
    {start tokens t kvHead c : Nat}
    (same : (tokenRows spec kv start tokens).Same (tokenRows spec kv' start tokens))
    (ht : t < tokens) (hkv : kvHead < spec.numKvHeads) (hc : c < 128) :
    kv.get (((start + t) * spec.numKvHeads + kvHead) * 128 + c) =
      kv'.get (((start + t) * spec.numKvHeads + kvHead) * 128 + c) := by
  rw [← tokenRows_get spec kv start tokens, ← tokenRows_get spec kv' start tokens]
  exact same.2 _ (rowMajor_lt (rowMajor_lt ht hkv) hc)

/-- Every row of ragged prefill is a single decode of the row's query over the causal prefix of its
request, operation for operation, and no number outside that query and that prefix reaches it. -/
theorem prefillRow_eq_decode (spec : Bf16RaggedPrefillSpec) {query key value output : Slice B}
    {lse : Slice F} {qoIndptr kvIndptr : Slice Int32} (hq : query.len = spec.queryNumel)
    (hk : key.len = spec.kvNumel) (hv : value.len = spec.kvNumel)
    (ho : output.len = spec.outputNumel) (hl : lse.len = spec.lseNumel)
    {metadata : Bf16RaggedPrefillMetadata}
    (accepted : spec.validateMetadata qoIndptr kvIndptr = .ok metadata) :
    ∃ out, raggedPrefillBf16Reference ops query key value qoIndptr kvIndptr output lse spec =
        .ok out ∧
      ∀ request < spec.batchSize, ∃ qoStart qoEnd kvStart kvEnd,
        metadata.requestRowRanges request = some ((qoStart, qoEnd), (kvStart, kvEnd)) ∧
        ∀ i < qoEnd - qoStart, ∀ n, n = kvEnd - kvStart - (qoEnd - qoStart) + i + 1 →
          (∀ decode, Bf16SingleDecodeSpec.new n spec.numQueryHeads spec.numKvHeads
              singleDecodeHeadDim = .ok decode →
            ∀ {output' : Slice B} {lse' : Slice F}, output'.len = decode.outputNumel →
              lse'.len = decode.lseNumel →
              ∃ single, singleDecodeBf16Reference ops (rowQuery spec query (qoStart + i))
                  (tokenRows spec key kvStart n) (tokenRows spec value kvStart n) output' lse'
                  decode = .ok single ∧
                ∀ head < spec.numQueryHeads,
                  SameRow out ((qoStart + i) * spec.numQueryHeads + head) single head) ∧
          (∀ {query' key' value' output' : Slice B} {lse' : Slice F},
            query'.len = spec.queryNumel → key'.len = spec.kvNumel → value'.len = spec.kvNumel →
            output'.len = spec.outputNumel → lse'.len = spec.lseNumel →
            (rowQuery spec query (qoStart + i)).Same (rowQuery spec query' (qoStart + i)) →
            (tokenRows spec key kvStart n).Same (tokenRows spec key' kvStart n) →
            (tokenRows spec value kvStart n).Same (tokenRows spec value' kvStart n) →
            ∃ out', raggedPrefillBf16Reference ops query' key' value' qoIndptr kvIndptr output' lse'
                spec = .ok out' ∧
              ∀ head < spec.numQueryHeads,
                SameRow out ((qoStart + i) * spec.numQueryHeads + head) out'
                  ((qoStart + i) * spec.numQueryHeads + head)) := by
  obtain ⟨valid, rfl⟩ := spec.validateMetadata_eq_ok.mp accepted
  obtain ⟨out, run, computed⟩ := raggedPrefillBf16Reference_computed ops spec hq hk hv ho hl valid
  refine ⟨out, run, fun request hr => ⟨_, _, _, _,
    Bf16RaggedPrefillMetadata.requestRowRanges_eq _ hr, fun i hi n hn => ⟨?_, ?_⟩⟩⟩
  · intro decode hdecode output' lse' ho' hl'
    obtain ⟨kvLen, queryHeads, kvHeads⟩ := Bf16SingleDecodeSpec.new_eq_ok hdecode
    have group : decode.gqaGroupSize = spec.gqaGroupSize := by
      rw [Bf16SingleDecodeSpec.gqaGroupSize, queryHeads, kvHeads]
      rfl
    have tokens : ∀ kv : Slice B, (tokenRows spec kv (indptrStart kvIndptr request) n).len =
        decode.kvNumel := fun kv => by
      rw [Bf16SingleDecodeSpec.kvNumel, kvLen, kvHeads]
      rfl
    have heads : (rowQuery spec query (indptrStart qoIndptr request + i)).len = decode.queryNumel := by
      rw [Bf16SingleDecodeSpec.queryNumel, queryHeads]
      rfl
    obtain ⟨single, run', computed'⟩ :=
      singleDecodeBf16Reference_computed ops decode heads (tokens key) (tokens value) ho' hl'
    refine ⟨single, run', fun head hh => ?_⟩
    refine computed.sameRow computed' (valid.row_lt hr hi hh) (queryHeads ▸ hh) ?_
    rw [valid.rowState_prefix ops _ _ _ hr hi hh, Bf16SingleDecodeSpec.headState, kvLen, kvHeads,
      group]
    subst hn
    refine attend_shift ops (fun c _ => ?_) (fun t _ c _ => ?_) fun t _ c _ => ?_
    · exact (rowQuery_get spec query _ head c).symm
    all_goals exact (tokenRows_get spec _ _ _ t _ c).symm
  · intro query' key' value' output' lse' hq' hk' hv' ho' hl' sameQuery sameKey sameValue
    obtain ⟨out', run', computed'⟩ :=
      raggedPrefillBf16Reference_computed ops spec hq' hk' hv' ho' hl' valid
    refine ⟨out', run', fun head hh => ?_⟩
    have hkv : head / spec.gqaGroupSize < spec.numKvHeads := kvHead_lt spec.group hh
    refine computed.sameRow computed' (valid.row_lt hr hi hh) (valid.row_lt hr hi hh) ?_
    rw [valid.rowState_prefix ops _ _ _ hr hi hh, valid.rowState_prefix ops _ _ _ hr hi hh]
    refine attend_congr ops _ _ (fun c hc => ?_) (fun t ht c hc => ?_) fun t ht c hc => ?_
    · exact rowQuery_same sameQuery hh hc
    · exact tokenRows_same sameKey (hn ▸ ht) hkv hc
    · exact tokenRows_same sameValue (hn ▸ ht) hkv hc

end Prefix

theorem chunked_rows : 0 < 3 := by decide

theorem chunked_tokens : 0 < 5 := by decide

/-- A request of one query row and two tokens, and one of two query rows and three tokens. -/
def chunkedSpec : Bf16RaggedPrefillSpec where
  batchSize := 2
  nnzQo := 3
  nnzKv := 5
  numQueryHeads := 1
  numKvHeads := 1
  batch_pos := Nat.two_pos
  qo_pos := chunked_rows
  kv_pos := chunked_tokens
  queryHeads_pos := Nat.one_pos
  kvHeads_pos := Nat.one_pos
  group := oneHead_divides
  qo_lt := by decide
  kv_lt := by decide
  batch_fits := by decide
  query_fits := threeRows_fit
  kv_fits := by decide

theorem chunked_valid : RaggedValid chunkedSpec (Slice.ofList [0, 1, 3]) (Slice.ofList [0, 2, 5]) :=
  chunkedSpec.checkMetadata_eq_ok.mp rfl

/-- The first row of the second request sees two of its three tokens: the last one may change. -/
theorem prefillRow_eq_decode_chunked :
    ∃ out decode single out',
      raggedPrefillBf16Reference (exactOps ℝ) ⟨384, fun _ => 1⟩ ⟨640, fun i => i⟩
        ⟨640, fun i => 2 * i⟩ (Slice.ofList [0, 1, 3]) (Slice.ofList [0, 2, 5]) ⟨384, fun _ => 0⟩
        ⟨3, fun _ => 0⟩ chunkedSpec = .ok out ∧
      Bf16SingleDecodeSpec.new 2 1 1 128 = .ok decode ∧
      singleDecodeBf16Reference (exactOps ℝ) (rowQuery chunkedSpec ⟨384, fun _ => 1⟩ 1)
        (tokenRows chunkedSpec ⟨640, fun i => i⟩ 2 2)
        (tokenRows chunkedSpec ⟨640, fun i => 2 * i⟩ 2 2) ⟨128, fun _ => 0⟩ ⟨1, fun _ => 0⟩ decode =
          .ok single ∧
      raggedPrefillBf16Reference (exactOps ℝ) ⟨384, fun _ => 1⟩
        ⟨640, fun i => if i < 512 then i else 0⟩ ⟨640, fun i => 2 * i⟩ (Slice.ofList [0, 1, 3])
        (Slice.ofList [0, 2, 5]) ⟨384, fun _ => 0⟩ ⟨3, fun _ => 0⟩ chunkedSpec = .ok out' ∧
      SameRow out 1 single 0 ∧ SameRow out 1 out' 1 := by
  obtain ⟨out, run, requests⟩ := @prefillRow_eq_decode ℝ ℝ (exactOps ℝ) chunkedSpec
    ⟨384, fun _ => 1⟩ ⟨640, fun i => i⟩ ⟨640, fun i => 2 * i⟩ ⟨384, fun _ => 0⟩ ⟨3, fun _ => 0⟩ _ _
    rfl rfl rfl rfl rfl _
    (chunkedSpec.validateMetadata_ok chunked_valid)
  obtain ⟨qoStart, qoEnd, kvStart, kvEnd, ranges, rows⟩ := requests 1 (by decide)
  have split : ((1, 3), (2, 5)) = ((qoStart, qoEnd), (kvStart, kvEnd)) := Option.some.inj ranges
  obtain ⟨⟨rfl, rfl⟩, rfl, rfl⟩ : (1 = qoStart ∧ 3 = qoEnd) ∧ 2 = kvStart ∧ 5 = kvEnd := by
    simpa using split
  obtain ⟨decoded, independent⟩ := rows 0 (by decide) 2 rfl
  obtain ⟨single, run', same⟩ := @decoded _ rfl ⟨128, fun _ => 0⟩ ⟨1, fun _ => 0⟩ rfl rfl
  have unchanged : ∀ i < 2 * 1 * 128, ((2 * 1 * 128 + i : Nat) : ℝ) =
      if 2 * 1 * 128 + i < 512 then ((2 * 1 * 128 + i : Nat) : ℝ) else 0 :=
    fun i hi => (if_pos (by omega)).symm
  obtain ⟨out', run'', same'⟩ := @independent ⟨384, fun _ => 1⟩
    ⟨640, fun i => if i < 512 then i else 0⟩ ⟨640, fun i => 2 * i⟩ ⟨384, fun _ => 0⟩
    ⟨3, fun _ => 0⟩ rfl rfl rfl rfl rfl
    ⟨rfl, fun _ _ => rfl⟩ ⟨rfl, unchanged⟩ ⟨rfl, fun _ _ => rfl⟩
  exact ⟨out, _, single, out', run, rfl, run', run'', same 0 (by decide), same' 0 (by decide)⟩

end LoomKernels
