import LoomKernels.Host.Gemm
import LoomKernels.Command.ProviderRuns

/-!
# The product that a GEMM plan asks for

The library computes what its documentation says of the descriptors it is given
(`MultipliesAsDocumented`), and a plan gives it those it made when it was planned. In exact arithmetic
this is what the host reference computes, for every plan that somebody owns, in every state of a
provider (`gemmPlan_eq_reference`).
-/

namespace LoomKernels

section Library

variable {K : Type} [Field K]

/-- Where the element of a row and a column is. -/
def LtMatrixLayout.index (layout : LtMatrixLayout) (row column : Nat) : Nat :=
  match layout.order with
  | .row => row * layout.leadingDimension + column
  | .col => column * layout.leadingDimension + row

/-- The element of a row and a column of `op(X)`. -/
def LtMatrixLayout.entry (layout : LtMatrixLayout) (transpose : Bool) (data : Nat → K)
    (row column : Nat) : K :=
  data (if transpose then layout.index column row else layout.index row column)

/-- The rows and columns of `op(X)`. -/
def LtMatrixLayout.extent (layout : LtMatrixLayout) (transpose : Bool) : Nat × Nat :=
  if transpose then (layout.columns, layout.rows) else (layout.rows, layout.columns)

/-- The leading dimension covers a row, or a column. -/
def LtMatrixLayout.Fits (layout : LtMatrixLayout) : Prop :=
  match layout.order with
  | .row => layout.columns ≤ layout.leadingDimension
  | .col => layout.rows ≤ layout.leadingDimension

/-- A matrix product of the library: the descriptor, the layouts of `A`, `B`, `C` and `D`, the scaling
factors, and the data of `A`, `B` and `C`. -/
abbrev LtMatmul (K : Type) :=
  LtMatmulDesc → LtMatrixLayout → LtMatrixLayout → LtMatrixLayout → LtMatrixLayout → K → K →
    (Nat → K) → (Nat → K) → (Nat → K) → Nat → K

/-- `D = alpha * op(A) * op(B) + beta * C`, on layouts that fit and operands of matching extents. -/
def MultipliesAsDocumented (matmul : LtMatmul K) : Prop :=
  ∀ (desc : LtMatmulDesc) (aLayout bLayout cLayout dLayout : LtMatrixLayout) (alpha beta : K)
    (a b c : Nat → K) (m n k : Nat),
    aLayout.Fits → bLayout.Fits → cLayout.Fits → dLayout.Fits →
    aLayout.extent desc.transA = (m, k) → bLayout.extent desc.transB = (k, n) →
    cLayout.extent false = (m, n) → dLayout.extent false = (m, n) → ∀ row < m, ∀ column < n,
      matmul desc aLayout bLayout cLayout dLayout alpha beta a b c (dLayout.index row column) =
        alpha * ∑ i ∈ Finset.range k,
            aLayout.entry desc.transA a row i * bLayout.entry desc.transB b i column +
          beta * cLayout.entry false c row column

/-- The library call of `enqueue_into`: the output is its own `C`, and is not added. `none` is a call on
objects that are not what they should be. -/
def PlanInner.matmul (plan : PlanInner) (matmul : LtMatmul K) (objects : Objects LtValue)
    (activation weight output : Nat → K) : Option (Nat → K) :=
  match objects.value plan.matmulDesc, objects.value plan.aLayout, objects.value plan.weightLayout,
    objects.value plan.outputLayout with
  | some (.matmulDesc desc), some (.matrixLayout aLayout), some (.matrixLayout weightLayout),
    some (.matrixLayout outputLayout) =>
    some (matmul desc aLayout weightLayout outputLayout outputLayout 1 0 activation weight output)
  | _, _, _, _ => none

end Library

section Plans

variable {K : Type} [Field K] [LinearOrder K] [ExactExp K] {matmul : LtMatmul K}

/-- The product of row-major operands, the second of which is transposed, is that of the reference. -/
theorem transposedProduct_eq_reference (documented : MultipliesAsDocumented matmul)
    {spec : Bf16GemmSpec} {a weight output : Slice K} {out : Nat → K}
    (run : bf16GemmReference (exactOps K) a weight output spec = .ok out) {i : Nat}
    (hi : i < spec.outputNumel) :
    matmul transposedProduct (rowMajorLayout spec.m spec.k) (rowMajorLayout spec.n spec.k)
      (rowMajorLayout spec.m spec.n) (rowMajorLayout spec.m spec.n) 1 0 a.get weight.get output.get i =
      out i := by
  obtain ⟨-, rfl⟩ := bf16GemmReference_eq_ok.mp run
  have hr : i / spec.n < spec.m := (lt_rows_iff spec.n_pos).mpr hi
  have hc : i % spec.n < spec.n := Nat.mod_lt i spec.n_pos
  have place : i / spec.n * spec.n + i % spec.n = i := Nat.div_add_mod' i spec.n
  have product := documented transposedProduct (rowMajorLayout spec.m spec.k)
    (rowMajorLayout spec.n spec.k) (rowMajorLayout spec.m spec.n) (rowMajorLayout spec.m spec.n) 1 0
    a.get weight.get output.get spec.m spec.n spec.k le_rfl le_rfl le_rfl le_rfl rfl rfl rfl rfl _ hr
    _ hc
  have element := @gemmRows_apply K K (exactOps K) a.get weight.get output.get spec _ _ hr hc
  rw [place, gemmDot_exact] at element
  rw [one_mul, zero_mul, add_zero] at product
  rw [element]
  exact (congrArg _ place.symm).trans product

namespace ProviderWorld

/-- Whatever happened to the provider, a plan that somebody owns asks the library for the product that
the host reference computes. -/
theorem gemmPlan_eq_reference (documented : MultipliesAsDocumented matmul) {foreign : ForeignAnswers}
    {context : CudaContext} {handle : Nat} {lt : LtState}
    (loaded : CublasLtProvider.load foreign LtState.start = .ok handle lt)
    (actions : List ProviderAction) {index holders : Nat} {plan : PlanInner}
    (found : (run (step foreign) (start context handle lt) actions).plans[index]? =
      some ⟨plan, holders⟩) (owned : holders ≠ 0) {a weight output : Slice K} {out : Nat → K}
    (reference : bf16GemmReference (exactOps K) a weight output plan.spec = .ok out) :
    ∃ result, plan.matmul matmul (run (step foreign) (start context handle lt) actions).lt.objects
        a.get weight.get output.get = some result ∧
      ∀ i < plan.spec.outputNumel, result i = out i := by
  have inv := @run_inv foreign context handle lt loaded actions
  have value : ∀ name v, (name, v) ∈ plan.objects →
      (run (step foreign) (start context handle lt) actions).lt.objects.value name = some v :=
    fun name v mem => inv.owns.value
      ((dropPlan_objects found owned).mem_iff.mpr (List.mem_append_left _ mem))
  refine ⟨_, ?_, fun i hi => transposedProduct_eq_reference documented reference hi⟩
  rw [PlanInner.matmul, value _ _ (.head _), value _ _ (.tail _ (.head _)),
    value _ _ (.tail _ (.tail _ (.head _))), value _ _ (.tail _ (.tail _ (.tail _ (.head _))))]

end ProviderWorld

end Plans

/-! ## One product -/

/-- The row and the column of an element. -/
def LtMatrixLayout.position (layout : LtMatrixLayout) (i : Nat) : Nat × Nat :=
  match layout.order with
  | .row => (i / layout.leadingDimension, i % layout.leadingDimension)
  | .col => (i % layout.leadingDimension, i / layout.leadingDimension)

theorem LtMatrixLayout.position_index {layout : LtMatrixLayout} (fits : layout.Fits)
    {row column : Nat} (hr : row < layout.rows) (hc : column < layout.columns) :
    layout.position (layout.index row column) = (row, column) := by
  unfold position index
  unfold Fits at fits
  cases order : layout.order with
  | row =>
    rw [order] at fits
    have inside := hc.trans_le fits
    dsimp only
    rw [row_div inside, row_mod inside]
  | col =>
    rw [order] at fits
    have inside := hr.trans_le fits
    dsimp only
    rw [row_div inside, row_mod inside]

/-- The documented product, computed element by element. -/
def elementwiseMatmul {K : Type} [Field K] : LtMatmul K :=
  fun desc aLayout bLayout cLayout dLayout alpha beta a b c i =>
    alpha * ∑ l ∈ Finset.range (aLayout.extent desc.transA).2,
        aLayout.entry desc.transA a (dLayout.position i).1 l *
          bLayout.entry desc.transB b l (dLayout.position i).2 +
      beta * cLayout.entry false c (dLayout.position i).1 (dLayout.position i).2

theorem elementwiseMatmul_documented {K : Type} [Field K] :
    MultipliesAsDocumented (@elementwiseMatmul K _) := by
  intro desc aLayout bLayout cLayout dLayout alpha beta a b c m n k _ _ _ dFits aExtent _ _ dExtent row
    hr column hc
  obtain ⟨rfl, rfl⟩ := Prod.mk.inj dExtent
  rw [elementwiseMatmul, dLayout.position_index dFits hr hc, aExtent]

/-- Nothing fails, and every algorithm does without a workspace. -/
def allSucceed : ForeignAnswers := ⟨fun _ => none, fun _ => none, fun _ => ⟨0, 0⟩⟩

theorem allSucceed_succeed : allSucceed.Succeed :=
  ⟨fun _ => rfl, fun _ => rfl, fun _ => Nat.zero_le _⟩

theorem threeColumns_pos : 0 < 3 := Nat.succ_pos 2

theorem sixWeights_fit : 3 * 2 < usizeSize := by decide

theorem sixOutputs_fit : 2 * 3 < usizeSize := by decide

/-- Two rows of `A` and three of `W`, of two elements each. -/
def twoByThreeGemmSpec : Bf16GemmSpec :=
  ⟨2, 3, 2, Nat.two_pos, threeColumns_pos, Nat.two_pos, fourElements_fit, sixWeights_fit,
    sixOutputs_fit⟩

theorem twoByThree_dimensions :
    CheckedDimensions.new twoByThreeGemmSpec = .ok ⟨2, 3, 2, 3, 2⟩ := rfl

theorem gemmPlan_eq_reference_twoByThree :
    ∃ lt plan, CublasLtProvider.load allSucceed LtState.start = .ok 0 lt ∧
      (run (ProviderWorld.step allSucceed) (ProviderWorld.start ⟨1, 0⟩ 0 lt)
        [.planBf16 twoByThreeGemmSpec]).plans[0]? = some ⟨plan, 1⟩ ∧
      ∃ result, plan.matmul elementwiseMatmul (run (ProviderWorld.step allSucceed)
          (ProviderWorld.start ⟨1, 0⟩ 0 lt) [.planBf16 twoByThreeGemmSpec]).lt.objects
          (fun i => (i : ℝ) + 1) (fun i => (i : ℝ)) (fun _ => 0) = some result ∧
        result 1 = 1 * 2 + 2 * 3 ∧ result 5 = 3 * 4 + 4 * 5 := by
  obtain ⟨lt, loaded, healthy⟩ : ∃ lt, CublasLtProvider.load allSucceed LtState.start = .ok 0 lt ∧
      lt.stickyStatus = 0 := ⟨_, rfl, rfl⟩
  obtain ⟨plan, s, planned, -⟩ :=
    (planBf16Gemm_succeeds allSucceed_succeed healthy twoByThree_dimensions 0).exists_ok
  have found : (run (ProviderWorld.step allSucceed) (ProviderWorld.start ⟨1, 0⟩ 0 lt)
      [.planBf16 twoByThreeGemmSpec]).plans[0]? = some ⟨plan, 1⟩ := by
    show (ProviderWorld.step allSucceed (ProviderWorld.start ⟨1, 0⟩ 0 lt)
      (.planBf16 twoByThreeGemmSpec)).plans[0]? = _
    dsimp only [ProviderWorld.step, ProviderWorld.start]
    rw [planned]
    rfl
  have spec : plan.spec = twoByThreeGemmSpec := by
    have owns : lt.Owns [] [(0, .handle)] :=
      (@ProviderWorld.start_inv allSucceed ⟨1, 0⟩ 0 lt loaded).owns
    have ends := @planBf16Gemm_owns allSucceed [] lt [] 0 twoByThreeGemmSpec owns
    unfold Ends at ends
    rw [planned] at ends
    exact ends.1
  obtain ⟨result, called, same⟩ := @ProviderWorld.gemmPlan_eq_reference ℝ _ _ _ elementwiseMatmul
    elementwiseMatmul_documented allSucceed ⟨1, 0⟩ 0 lt loaded [.planBf16 twoByThreeGemmSpec] 0 1
    plan found Nat.one_ne_zero ⟨4, fun i => (i : ℝ) + 1⟩ ⟨6, fun i => (i : ℝ)⟩ ⟨6, fun _ => 0⟩ _
    (bf16GemmReference_eq_ok.mpr ⟨by rw [spec]; exact ⟨rfl, rfl, rfl⟩, rfl⟩)
  rw [spec] at same
  have element (row column : Nat) (hr : row < 2) (hc : column < 3)
      (inside : row * 3 + column < 2 * 3) :
      result (row * 3 + column) = ∑ l ∈ Finset.range 2,
        (((row * 2 + l : Nat) : ℝ) + 1) * ((column * 2 + l : Nat) : ℝ) := by
    have value := @gemmRows_apply ℝ ℝ (exactOps ℝ) (fun i => (i : ℝ) + 1) (fun i => (i : ℝ))
      (fun _ => 0) twoByThreeGemmSpec row column hr hc
    rw [gemmDot_exact] at value
    exact (same _ inside).trans value
  refine ⟨lt, plan, loaded, found, result, called, ?_, ?_⟩
  · rw [element 0 1 Nat.two_pos (by decide) (by decide), Finset.sum_range_succ,
      Finset.sum_range_one]
    norm_num
  · rw [element 1 2 Nat.one_lt_two (by decide) (by decide), Finset.sum_range_succ,
      Finset.sum_range_one]
    norm_num

end LoomKernels
