import ThalerNodelib.DepositExport
import ThalerNodelib.TransferPayload
import ThalerNodelib.UnjailVerification

/-!
Byte strings that a caller supplies and the native module decodes: a signed
unjail transaction to be verified, a witness for an input of a transfer, and
the witnesses of a deposit. At each of the three the decoder advances a slice
that is then dropped, so what follows the value goes unseen.
-/
namespace ThalerNodelib.StrictDecoding

open Js Native Network KeyPairs ThalerNodelib.Types Runs Crates FunctionTypes NativeExport
  NativeFromCrates NativeStaking NativeTransfer UnjailVerification

variable {crates : Crates} {multiSig : MultiSigModule} {runtime : Runtime}

/-! The signed unjail transaction. -/

/-- The transaction is looked at through the decoder alone. -/
theorem verifySignedUnjailTxHex_congr {bytes bytes' : Buffer}
    (h : crates.transactions.txAux.read bytes' = crates.transactions.txAux.read bytes)
    (options : VerifySignedUnjailTxHexOption) :
    verifySignedUnjailTxHex (nativeModule crates multiSig) bytes' options =
      verifySignedUnjailTxHex (nativeModule crates multiSig) bytes options := by
  change verifyUnjailTxAux crates bytes' _ = verifyUnjailTxAux crates bytes _
  unfold verifyUnjailTxAux unjailTxAuxArgument decode
  rw [h]

theorem read_of_verifySignedUnjailTxHex {bytes : Buffer} {options : VerifySignedUnjailTxHexOption}
    (h : verifySignedUnjailTxHex (nativeModule crates multiSig) bytes options = .ok ()) :
    ∃ txAux, crates.transactions.txAux.read bytes = .ok txAux := by
  obtain ⟨tx, witness, hargument, -⟩ := verifyUnjailTxAux_eq_ok.mp h
  obtain ⟨txAux, hread, -⟩ := bind_eq_ok.mp hargument
  exact ⟨txAux, chainNeon_eq_ok.mp hread⟩

/-! The witness of an input of a transfer. -/

theorem transfer_addWitness_congr {bytes bytes' : Buffer}
    (h : crates.transactions.txInWitness.read bytes' = crates.transactions.txInWitness.read bytes)
    (s : Transfer.Builder) (index : JsNumber) :
    (Transfer.addWitness (nativeModule crates multiSig) index bytes').run s =
      (Transfer.addWitness (nativeModule crates multiSig) index bytes).run s := by
  have hnative : (nativeModule crates multiSig).transferTransaction.addInputWitnessLinearFee =
      addInputWitnessLinearFee crates := rfl
  have hsame : ∀ incomplete, addInputWitnessLinearFee crates incomplete index bytes' =
      addInputWitnessLinearFee crates incomplete index bytes := by
    intro incomplete
    unfold addInputWitnessLinearFee decode
    rw [h]
  rw [Transfer.addWitness_run, Transfer.addWitness_run, hnative]
  simp only [hsame]

theorem read_of_transfer_addWitness {s : Transfer.Builder} {index : JsNumber} {bytes : Buffer}
    {v : Transfer.Value}
    (h : outcome (Transfer.machine (nativeModule crates multiSig) runtime) s
      (.addWitness index bytes) = .ok v) :
    ∃ witness, crates.transactions.txInWitness.read bytes = .ok witness := by
  have hstep := Transfer.step_of_outcome h
  generalize next (Transfer.machine (nativeModule crates multiSig) runtime) s
    (.addWitness index bytes) = t at hstep
  cases hstep with
  | addWitness _ _ incompleteHex updated hindex hhex hadd =>
    obtain ⟨raw, i, witness, extended, -, -, hread, -⟩ :=
      Transfer.addInputWitnessLinearFee_eq_ok.mp hadd
    exact ⟨witness, hread⟩
  | kept hno => cases (hno v rfl).2

/-! The witnesses of a deposit. -/

/-- The witness is stored without a look at it. -/
theorem deposit_addWitness_outcome {native : NativeModule} (s : Deposit.Builder native)
    (index : JsNumber) (bytes bytes' : Buffer) :
    outcome (Deposit.machine native runtime) s (.addWitness index bytes') =
      outcome (Deposit.machine native runtime) s (.addWitness index bytes) := by
  simp only [outcome, Deposit.machine, Deposit.addWitness, EStateM.run_bind, EStateM.run_get,
    run_call]
  cases ow (owNumber index) "index" with
  | error e => rfl
  | ok _ =>
    cases hsignable : s.verifyTxIsSignable with
    | error e => simp [hsignable]
    | ok _ =>
      cases hverify : s.verifyInputIndex index with
      | error e => simp [hsignable, hverify]
      | ok _ =>
        rw [Deposit.assignWitness, Deposit.assignWitness]
        cases index.arrayIndex with
        | none => simp [hsignable, hverify]
        | some i => by_cases hlt : i < s.inputsLength <;> simp [hsignable, hverify, hlt]

/-- The witnesses of the inputs once that of one input is set. -/
theorem witnesses_setWitness {native : NativeModule} (s : Deposit.Builder native) {i : ℕ}
    (hi : i < s.inputsLength) (bytes : Buffer) :
    (s.setWitness i bytes).inputs.map Deposit.WitnessedPrevOutputPointer.witness =
      (s.inputs.map Deposit.WitnessedPrevOutputPointer.witness).set i (some bytes) := by
  have hlength : i < s.inputs.length := hi
  apply List.ext_getElem?
  intro j
  rw [List.getElem?_map, Deposit.setWitness_getElem?, List.getElem?_set, List.length_map]
  by_cases hij : i = j
  · subst hij
    rw [if_pos rfl, if_pos rfl, if_pos hlength, List.getElem?_eq_getElem hlength]
    rfl
  · rw [if_neg hij, if_neg hij, List.getElem?_map]

theorem isCompleted_setWitness {native : NativeModule} (s : Deposit.Builder native) (i : ℕ)
    {bytes : Buffer} (bytes' : Buffer) (h : (s.setWitness i bytes).isCompleted = true) :
    (s.setWitness i bytes').isCompleted = true := by
  rw [Deposit.isCompleted_iff] at h ⊢
  obtain ⟨hpos, hwitnessed⟩ := h
  have hlength : (s.setWitness i bytes').inputs.length = (s.setWitness i bytes).inputs.length :=
    (Deposit.setWitness_length s i bytes').trans (Deposit.setWitness_length s i bytes).symm
  refine ⟨by rwa [hlength], fun input hinput => ?_⟩
  obtain ⟨j, hj⟩ := List.mem_iff_getElem?.mp hinput
  rw [Deposit.setWitness_getElem?] at hj
  by_cases hij : i = j
  · rw [if_pos hij] at hj
    obtain ⟨old, -, rfl⟩ := Option.map_eq_some_iff.mp hj
    rfl
  · rw [if_neg hij] at hj
    apply hwitnessed
    apply List.mem_of_getElem? (i := j)
    rw [Deposit.setWitness_getElem?, if_neg hij]
    exact hj

/-- The export looks at a witness through the decoder alone. -/
theorem deposit_toHex_congr {bytes bytes' : Buffer}
    (h : crates.transactions.txInWitness.read bytes' = crates.transactions.txInWitness.read bytes)
    {s : Deposit.Builder (nativeModule crates multiSig)}
    (hs : (Deposit.cell (nativeModule crates multiSig)).Coherent s) {i : ℕ}
    (hi : i < s.inputsLength) {address : Option String} {v : Deposit.Value}
    (hv : outcome (Deposit.machine (nativeModule crates multiSig) runtime) (s.setWitness i bytes)
      (.toHex address) = .ok v) :
    outcome (Deposit.machine (nativeModule crates multiSig) runtime) (s.setWitness i bytes')
      (.toHex address) = .ok v := by
  have ht := Deposit.setWitness_coherent hs i bytes
  have ht' := Deposit.setWitness_coherent hs i bytes'
  obtain ⟨hcompleted, haddress⟩ := Deposit.checks_of_toHex ht hv
  have hcompleted' := isCompleted_setWitness s i bytes' hcompleted
  have hwitnesses : txInWitnessVecArgument crates
      ((s.inputs.map Deposit.WitnessedPrevOutputPointer.witness).set i (some bytes')) =
      txInWitnessVecArgument crates
        ((s.inputs.map Deposit.WitnessedPrevOutputPointer.witness).set i (some bytes)) := by
    apply mapM_set
    unfold decode
    rw [downcastBuffer_some, downcastBuffer_some]
    simp only [bind, Except.bind]
    rw [h]
  have hnative : ∀ tx, depositTransactionToHex crates tx
      ((s.setWitness i bytes').inputs.map Deposit.WitnessedPrevOutputPointer.witness) =
      depositTransactionToHex crates tx
        ((s.setWitness i bytes).inputs.map Deposit.WitnessedPrevOutputPointer.witness) := by
    intro tx
    unfold depositTransactionToHex
    rw [witnesses_setWitness s hi, witnesses_setWitness s hi, hwitnesses]
  rw [Deposit.toHex_outcome ht hcompleted haddress, Deposit.setWitness_build] at hv
  rw [Deposit.toHex_outcome ht' hcompleted' haddress, Deposit.setWitness_build, ← hv]
  change ((_ >>= fun rawTx => depositTransactionToHex crates _ _ _ _).map _) = _
  simp only [hnative]
  rfl

/-- An export reads the witness of every input. -/
theorem read_of_deposit_toHex {s : Deposit.Builder (nativeModule crates multiSig)}
    (hs : (Deposit.cell (nativeModule crates multiSig)).Coherent s) {address : Option String}
    {v : Deposit.Value}
    (hv : outcome (Deposit.machine (nativeModule crates multiSig) runtime) s (.toHex address) =
      .ok v)
    {bytes : Buffer}
    (hbytes : some bytes ∈ s.inputs.map Deposit.WitnessedPrevOutputPointer.witness) :
    ∃ witness, crates.transactions.txInWitness.read bytes = .ok witness := by
  obtain ⟨hcompleted, haddress⟩ := Deposit.checks_of_toHex hs hv
  rw [Deposit.toHex_outcome hs hcompleted haddress] at hv
  obtain ⟨hex, hhex, -⟩ := map_eq_ok.mp hv
  obtain ⟨rawTx, -, hhex⟩ := bind_eq_ok.mp hhex
  obtain ⟨tx, -, hhex⟩ := bind_eq_ok.mp hhex
  obtain ⟨witnesses, hwitnesses, -⟩ := bind_eq_ok.mp hhex
  obtain ⟨given, hgiven, hread⟩ :=
    (txInWitnessVecArgument_isOk_iff _).mp ⟨witnesses, hwitnesses⟩ _ hbytes
  obtain rfl := Option.some.inj hgiven
  exact hread

/-- The bytes are taken as the witness of the input, and the export that follows
succeeds with the value. -/
def Exports (runtime : Runtime) {native : NativeModule} (s : Deposit.Builder native)
    (index : JsNumber) (address : Option String) (v : Deposit.Value) (bytes : Buffer) : Prop :=
  outcome (Deposit.machine native runtime) s (.addWitness index bytes) = .ok .this ∧
    outcome (Deposit.machine native runtime)
      (next (Deposit.machine native runtime) s (.addWitness index bytes)) (.toHex address) = .ok v

/-- A successful `addWitness` sets the witness of the input. -/
theorem next_addWitness {native : NativeModule} {s : Deposit.Builder native}
    (hs : (Deposit.cell native).Coherent s) {index : JsNumber} {bytes : Buffer}
    (h : outcome (Deposit.machine native runtime) s (.addWitness index bytes) = .ok .this) :
    ∃ i, index.arrayIndex = some i ∧ i < s.inputsLength ∧
      next (Deposit.machine native runtime) s (.addWitness index bytes) = s.setWitness i bytes := by
  have hstep : Deposit.Step native s (.addWitness index bytes)
      (outcome (Deposit.machine native runtime) s (.addWitness index bytes))
      (next (Deposit.machine native runtime) s (.addWitness index bytes)) := Deposit.step hs _
  rw [h] at hstep
  generalize next (Deposit.machine native runtime) s (.addWitness index bytes) = t at hstep ⊢
  cases hstep with
  | addWitness _ i _ hi hlt => exact ⟨i, hi, hlt, rfl⟩
  | kept hno => cases (hno _ rfl).2
  | filled rawTx hno _ => cases (hno _ rfl).2

theorem Exports.congr {s : Deposit.Builder (nativeModule crates multiSig)}
    (hs : (Deposit.cell (nativeModule crates multiSig)).Coherent s) {index : JsNumber}
    {address : Option String} {v : Deposit.Value} {bytes bytes' : Buffer}
    (h : crates.transactions.txInWitness.read bytes' = crates.transactions.txInWitness.read bytes)
    (hexports : Exports runtime s index address v bytes) :
    Exports runtime s index address v bytes' := by
  obtain ⟨hadd, hv⟩ := hexports
  have hadd' := (deposit_addWitness_outcome s index bytes bytes').trans hadd
  obtain ⟨i, hi, hlt, hnext⟩ := next_addWitness hs hadd
  obtain ⟨j, hj, -, hnext'⟩ := next_addWitness hs hadd'
  obtain rfl : i = j := Option.some.inj (hi.symm.trans hj)
  refine ⟨hadd', ?_⟩
  rw [hnext] at hv
  rw [hnext']
  exact deposit_toHex_congr h hs hlt hv

theorem Exports.reads {s : Deposit.Builder (nativeModule crates multiSig)}
    (hs : (Deposit.cell (nativeModule crates multiSig)).Coherent s) {index : JsNumber}
    {address : Option String} {v : Deposit.Value} {bytes : Buffer}
    (hexports : Exports runtime s index address v bytes) :
    ∃ witness, crates.transactions.txInWitness.read bytes = .ok witness := by
  obtain ⟨hadd, hv⟩ := hexports
  obtain ⟨i, -, hlt, hnext⟩ := next_addWitness hs hadd
  rw [hnext] at hv
  apply read_of_deposit_toHex (Deposit.setWitness_coherent hs i bytes) hv
  rw [witnesses_setWitness s hlt]
  apply List.mem_set
  rw [List.length_map]
  exact hlt

theorem setWitness_self {native : NativeModule} {s : Deposit.Builder native} {i : ℕ}
    {input : Deposit.WitnessedPrevOutputPointer} (hi : s.inputs[i]? = some input) {bytes : Buffer}
    (hbytes : input.witness = some bytes) : s.setWitness i bytes = s := by
  have hinputs : (s.setWitness i bytes).inputs = s.inputs := by
    apply List.ext_getElem?
    intro j
    rw [Deposit.setWitness_getElem?]
    by_cases hij : i = j
    · subst hij
      rw [if_pos rfl, hi, ← hbytes]
      rfl
    · rw [if_neg hij]
  calc
    s.setWitness i bytes = { s with inputs := (s.setWitness i bytes).inputs } := rfl
    _ = s := by rw [hinputs]

/-- A witness that an input has can be handed over again. -/
theorem exports_stored {s : Deposit.Builder (nativeModule crates multiSig)}
    (hs : (Deposit.cell (nativeModule crates multiSig)).Coherent s) {i : ℕ}
    {input : Deposit.WitnessedPrevOutputPointer} (hi : s.inputs[i]? = some input) {bytes : Buffer}
    (hbytes : input.witness = some bytes) {address : Option String} {v : Deposit.Value}
    (hv : outcome (Deposit.machine (nativeModule crates multiSig) runtime) s (.toHex address) =
      .ok v) : Exports runtime s (.ofNat i) address v bytes := by
  have hlength : i < s.inputsLength := (List.getElem?_eq_some_iff.mp hi).1
  have hverify := Deposit.verifyInputIndex_ofNat hlength
  have hinput : s.inputs.length ≠ 0 := Nat.ne_zero_of_lt hlength
  have hsignable : s.verifyTxIsSignable = .ok () := by
    simp [Deposit.DepositTransactionBuilder.verifyTxIsSignable,
      Deposit.DepositTransactionBuilder.verifyHasInput,
      Deposit.DepositTransactionBuilder.hasInput, hinput]
  have hnumber : ow (owNumber (.ofNat i)) "index" = .ok () := rfl
  have hadd : outcome (Deposit.machine (nativeModule crates multiSig) runtime) s
      (.addWitness (.ofNat i) bytes) = .ok .this := by
    apply outcome_ok (t := s.setWitness i bytes)
    simp [Deposit.machine, Deposit.addWitness, Deposit.assignWitness, hnumber, hsignable, hverify,
      JsNumber.arrayIndex_ofNat, hlength]
  obtain ⟨j, hj, -, hnext⟩ := next_addWitness hs hadd
  obtain rfl : i = j := Option.some.inj ((JsNumber.arrayIndex_ofNat i).symm.trans hj)
  refine ⟨hadd, ?_⟩
  rw [hnext, setWitness_self hi hbytes]
  exact hv

/-! The three together. -/

/-- At each of the three, whatever follows an accepted byte string is accepted with
it, decoded as the same value and with the same effect. -/
structure TrailingBytesUnseen (crates : Crates) (multiSig : MultiSigModule) (runtime : Runtime) :
    Prop where
  verify : ∀ options bytes, crates.transactions.txAux.Extensible (fun bytes =>
    verifySignedUnjailTxHex (nativeModule crates multiSig) bytes options = .ok ()) bytes
  transfer : ∀ s index v t bytes, crates.transactions.txInWitness.Extensible (fun bytes =>
    outcome (Transfer.machine (nativeModule crates multiSig) runtime) s
        (.addWitness index bytes) = .ok v ∧
      next (Transfer.machine (nativeModule crates multiSig) runtime) s
        (.addWitness index bytes) = t) bytes
  deposit : ∀ options s₀ log s,
    Deposit.DepositTransactionBuilder.new (nativeModule crates multiSig) options = .ok s₀ →
    Run (Deposit.machine (nativeModule crates multiSig) runtime) s₀ log s →
    ∀ index address v bytes,
      crates.transactions.txInWitness.Extensible (Exports runtime s index address v) bytes
  stored : ∀ options s₀ log s,
    Deposit.DepositTransactionBuilder.new (nativeModule crates multiSig) options = .ok s₀ →
    Run (Deposit.machine (nativeModule crates multiSig) runtime) s₀ log s →
    ∀ i input bytes, s.inputs[i]? = some input → input.witness = some bytes →
    ∀ address v, outcome (Deposit.machine (nativeModule crates multiSig) runtime) s
      (.toHex address) = .ok v → Exports runtime s (.ofNat i) address v bytes

/-- No call looks at what its decoder leaves. -/
theorem trailing_bytes_unseen (formats : FormatLaws crates.transactions) :
    TrailingBytesUnseen crates multiSig runtime where
  verify options bytes := by
    refine formats.txAux.extensible (fun _ h => read_of_verifySignedUnjailTxHex h) ?_ bytes
    intro given given' hread h
    exact (verifySignedUnjailTxHex_congr hread options).trans h
  transfer s index v t bytes := by
    refine formats.txInWitness.extensible (fun _ h => read_of_transfer_addWitness h.1) ?_ bytes
    intro given given' hread h
    have hrun : (Transfer.addWitness (nativeModule crates multiSig) index given').run s =
        (Transfer.addWitness (nativeModule crates multiSig) index given).run s :=
      transfer_addWitness_congr hread s index
    simpa only [outcome, next, Transfer.machine, EStateM.run_bind, hrun] using h
  deposit options s₀ log s hnew run index address v bytes := by
    have hs := Deposit.run_coherent (Deposit.new_coherent hnew) run
    exact formats.txInWitness.extensible (fun _ h => h.reads hs)
      (fun _ _ hread h => h.congr hs hread) bytes
  stored options s₀ log s hnew run i input bytes hi hbytes address v hv :=
    exports_stored (Deposit.run_coherent (Deposit.new_coherent hnew) run) hi hbytes hv

namespace Sample

/-- The signed unjail transaction of the sample builder. -/
def unjailHex : Buffer :=
  (UnjailVerification.Sample.start.sign (Crates.Sample.keyPair 7)).toHex.toOption.getD []

/-- A witness of zeros, and one byte more. -/
def witness : Buffer := List.replicate 99 0

def transfer : Transfer.Builder := (Transfer.Sample.run [.addInput (Transfer.Sample.input 7 1 1)]).2

/-- A deposit of one input with the witness. -/
def deposit : Log JsError (Deposit.Builder Crates.Sample.module) (Deposit.Call Crates.Sample.module)
    Deposit.Value × Deposit.Builder Crates.Sample.module :=
  execute (Deposit.machine Crates.Sample.module Native.Sample.runtime)
    Deposit.Sample.cratesStart
    [.addInput ⟨hexEncode (Crates.Sample.privateKey 7), .ofNat 0⟩, .addWitness (.ofNat 0) witness]

theorem verify_trailing : verifySignedUnjailTxHex Crates.Sample.module (unjailHex ++ [0])
    (UnjailVerification.Sample.asserted 5) = .ok () := by decide +kernel

theorem not_exact_trailing : ¬ Crates.Sample.txAux.Exact (unjailHex ++ [0]) := by
  intro h
  have hrest := Crates.Sample.txAux_lawful.remainder_of_exact h
  revert hrest
  decide +kernel

theorem not_exact_witness : ¬ Crates.Sample.txInWitness.Exact witness := by
  intro h
  have hrest := Crates.Sample.txInWitness_inverse.lawful.remainder_of_exact h
  revert hrest
  decide +kernel

end Sample

/-- The sample transaction verifies with two bytes too many, and is exact without. -/
theorem two_bytes_unseen :
    Crates.Sample.txAux.Exact Sample.unjailHex ∧
    verifySignedUnjailTxHex Crates.Sample.module (Sample.unjailHex ++ [0, 0])
      (UnjailVerification.Sample.asserted 5) = .ok () := by
  have hunseen : TrailingBytesUnseen Crates.Sample.crates Native.Sample.module.multiSig
      Native.Sample.runtime := trailing_bytes_unseen Crates.Sample.layout_laws.toFormatLaws
  have hverify := hunseen.verify (UnjailVerification.Sample.asserted 5) Sample.unjailHex
  exact ⟨hverify.exact_iff.mpr (by decide +kernel), hverify.accepted (by decide +kernel) [0, 0]⟩

/-- At each of the three a byte too many is accepted. -/
theorem trailing_byte_accepted :
    ((UnjailVerification.Sample.start.sign (Crates.Sample.keyPair 7)).toHex =
        .ok Sample.unjailHex ∧
      verifySignedUnjailTxHex Crates.Sample.module (Sample.unjailHex ++ [0])
        (UnjailVerification.Sample.asserted 5) = .ok () ∧
      ¬ Crates.Sample.txAux.Exact (Sample.unjailHex ++ [0])) ∧
    (outcome (Transfer.machine Crates.Sample.module Native.Sample.runtime) Sample.transfer
        (.addWitness (.ofNat 0) Sample.witness) = .ok .undefined ∧
      ¬ Crates.Sample.txInWitness.Exact Sample.witness) ∧
    Sample.deposit.2.inputs.map Deposit.WitnessedPrevOutputPointer.witness =
      [some Sample.witness] ∧
    (outcome (Deposit.machine Crates.Sample.module Native.Sample.runtime) Sample.deposit.2
      (.toHex none)).isOk = true := by
  refine ⟨⟨?_, Sample.verify_trailing, Sample.not_exact_trailing⟩,
    ⟨?_, Sample.not_exact_witness⟩, ?_, ?_⟩
  · decide +kernel
  · decide +kernel
  · decide +kernel
  · decide +kernel

end ThalerNodelib.StrictDecoding
