import ThalerNodelib.MultiSigGates
import ThalerNodelib.NativeMultiSig

/-!
The builder of multi-sig addresses and sessions: it joins the key of its own
key pair to the keys of the co-signers and keeps the list for later calls.
-/
namespace ThalerNodelib.MultiSigBuilders

open Js Native Network Crates KeyPairs ThalerNodelib.Types Runs NativeMultiSig MultiSig

variable (crates : Crates) (multiSig : MultiSigCrate crates.types)

/-- An array has fewer than 2^32 elements. The last key is that of the key pair,
`undefined` if it has none. -/
structure MultiSigBuilder where
  keyPair : KeyPair (nativeModule crates multiSig)
  network : String
  network_named : owNetworkEnum network = true
  signerPublicKeys : List (Option Buffer)
  two_signers : 2 ≤ signerPublicKeys.length
  array : signerPublicKeys.length < 2 ^ 32
  own_last : signerPublicKeys.getLast? = some keyPair.publicKey
  requiredSignerNumber : JsNumber
  required_lower : (JsNumber.ofNat 1).le requiredSignerNumber = true
  required_upper : requiredSignerNumber.le (.ofNat signerPublicKeys.length) = true
  multiSigAddress : Option String

abbrev Builder := MultiSigBuilder crates multiSig

def joinKeys (coSignerPublicKeys : List Buffer) (publicKey : Option Buffer) :
    List (Option Buffer) :=
  coSignerPublicKeys.map some ++ [publicKey]

@[simp] theorem joinKeys_length (coSignerPublicKeys : List Buffer) (publicKey : Option Buffer) :
    (joinKeys coSignerPublicKeys publicKey).length = coSignerPublicKeys.length + 1 := by
  simp [joinKeys]

/-- `concat` throws for a list that is too long. -/
def new (selfKeyPair : KeyPair (nativeModule crates multiSig)) (coSignerPublicKeys : List Buffer)
    (network : String) (requiredSignerNumber : JsNumber) :
    Except JsError (Builder crates multiSig) :=
  if hnetwork : owNetworkEnum network = true then
    if hcoSigners : 1 ≤ coSignerPublicKeys.length then
      if harray : coSignerPublicKeys.length + 1 < 2 ^ 32 then
        if hlower : (JsNumber.ofNat 1).le requiredSignerNumber = true then
          if hupper : requiredSignerNumber.le (.ofNat (coSignerPublicKeys.length + 1)) = true then
            .ok {
              keyPair := selfKeyPair
              network := network
              network_named := hnetwork
              signerPublicKeys := joinKeys coSignerPublicKeys selfKeyPair.publicKey
              two_signers := by rw [joinKeys_length]; omega
              array := by rwa [joinKeys_length]
              own_last := by simp [joinKeys]
              requiredSignerNumber := requiredSignerNumber
              required_lower := hlower
              required_upper := by rwa [joinKeys_length]
              multiSigAddress := none }
          else .error (.argumentError "" "")
        else .error (.argumentError "" "")
      else .error (.error "Invalid array length")
    else .error (.argumentError "" "")
  else .error (.argumentError "" "")

def createMultiSigAddress : Method (Builder crates multiSig) String := do
  call (ow (check (decide (2 ≤ (← get).signerPublicKeys.length)) "") "")
  let b ← get
  let address ← call (createAddress crates b.signerPublicKeys b.keyPair.publicKey
    b.requiredSignerNumber b.network)
  call (owNative (owTransferAddress (nativeModule crates multiSig) address) "")
  modify fun b => { b with multiSigAddress := some address }
  return address

variable {crates multiSig}

/-- The constructor of the session looks at the message before the keys. -/
def MultiSigBuilder.createNewSession (b : Builder crates multiSig) (message : String) :
    Except JsError (Session (nativeModule crates multiSig)) :=
  match b.signerPublicKeys.mapM id with
  | some signerPublicKeys =>
    MultiSig.new (nativeModule crates multiSig) message b.keyPair signerPublicKeys
  | none =>
    if message = "" then .error (.argumentError "message" "")
    else .error (.argumentError "signerPublicKeys" "")

inductive BuilderCall
  | createMultiSigAddress
  | createNewSession (message : String)

inductive BuilderValue (crates : Crates) (multiSig : MultiSigCrate crates.types)
  | address (value : String)
  | session (value : Session (nativeModule crates multiSig))

variable (crates multiSig)

def machine :
    Machine JsError (Builder crates multiSig) BuilderCall (BuilderValue crates multiSig)
  | .createMultiSigAddress => return .address (← createMultiSigAddress crates multiSig)
  | .createNewSession message => return .session (← call ((← get).createNewSession message))

variable {crates multiSig} {selfKeyPair : KeyPair (nativeModule crates multiSig)}
  {coSignerPublicKeys : List Buffer} {network : String} {requiredSignerNumber : JsNumber}
  {b b₀ : Builder crates multiSig}
  {log : Log JsError (Builder crates multiSig) BuilderCall (BuilderValue crates multiSig)}

/-- What every state of a builder has from the arguments of its constructor. -/
structure Built (selfKeyPair : KeyPair (nativeModule crates multiSig))
    (coSignerPublicKeys : List Buffer) (network : String) (requiredSignerNumber : JsNumber)
    (b : Builder crates multiSig) : Prop where
  keyPair : b.keyPair = selfKeyPair
  signerPublicKeys : b.signerPublicKeys = joinKeys coSignerPublicKeys selfKeyPair.publicKey
  network : b.network = network
  requiredSignerNumber : b.requiredSignerNumber = requiredSignerNumber

theorem Built.start
    (hnew : new crates multiSig selfKeyPair coSignerPublicKeys network requiredSignerNumber =
      .ok b₀) : Built selfKeyPair coSignerPublicKeys network requiredSignerNumber b₀ := by
  unfold new at hnew
  split_ifs at hnew
  obtain rfl := Except.ok.inj hnew
  exact ⟨rfl, rfl, rfl, rfl⟩

/-- The address goes through the check of the library before it is kept. -/
theorem createMultiSigAddress_run (b : Builder crates multiSig) :
    (createMultiSigAddress crates multiSig).run b =
      match createAddress crates b.signerPublicKeys b.keyPair.publicKey b.requiredSignerNumber
        b.network with
      | .error e => .error e b
      | .ok address =>
        match owNative (owTransferAddress (nativeModule crates multiSig) address) "" with
        | .error e => .error e b
        | .ok _ => .ok address { b with multiSigAddress := some address } := by
  have htwo := b.two_signers
  cases hcreate : createAddress crates b.signerPublicKeys b.keyPair.publicKey
      b.requiredSignerNumber b.network with
  | error e => simp [createMultiSigAddress, check, htwo, hcreate]
  | ok address =>
    cases hvalid : owNative (owTransferAddress (nativeModule crates multiSig) address) "" <;>
      simp [createMultiSigAddress, check, htwo, hcreate, hvalid]

/-- The address that is returned is made of the list, the key and the number. -/
theorem createMultiSigAddress_eq_ok {v : BuilderValue crates multiSig} :
    outcome (machine crates multiSig) b .createMultiSigAddress = .ok v ↔
      ∃ address, v = .address address ∧
        createAddress crates b.signerPublicKeys b.keyPair.publicKey b.requiredSignerNumber
          b.network = .ok address ∧
        owTransferAddress (nativeModule crates multiSig) address = .ok none := by
  have hcreates := createMultiSigAddress_run b
  cases hcreate : createAddress crates b.signerPublicKeys b.keyPair.publicKey
      b.requiredSignerNumber b.network with
  | error e =>
    rw [hcreate] at hcreates
    simp [outcome, machine, hcreates]
  | ok address =>
    rw [hcreate] at hcreates
    have hvalid := owNative_eq_ok (owTransferAddress (nativeModule crates multiSig) address) ""
    cases howned : owNative (owTransferAddress (nativeModule crates multiSig) address) "" with
    | error e =>
      simp only [howned] at hcreates
      rw [howned] at hvalid
      have hrefused : owTransferAddress (nativeModule crates multiSig) address ≠ .ok none :=
        fun h => by cases hvalid.mpr h
      simp [outcome, machine, hcreates, hrefused]
    | ok _ =>
      simp only [howned] at hcreates
      rw [howned] at hvalid
      simp [outcome, machine, hcreates, hvalid.mp rfl, eq_comm]

/-- A call changes nothing but the address. -/
theorem next_eq (b : Builder crates multiSig) (c : BuilderCall) :
    ∃ address, next (machine crates multiSig) b c = { b with multiSigAddress := address } := by
  cases c with
  | createNewSession message =>
    refine ⟨b.multiSigAddress, ?_⟩
    cases hsession : b.createNewSession message <;> simp [next, machine, hsession]
  | createMultiSigAddress =>
    simp only [next, machine, EStateM.run_bind, createMultiSigAddress_run]
    cases createAddress crates b.signerPublicKeys b.keyPair.publicKey b.requiredSignerNumber
        b.network with
    | error e => exact ⟨b.multiSigAddress, rfl⟩
    | ok address =>
      cases hvalid : owNative (owTransferAddress (nativeModule crates multiSig) address) "" with
      | error e => exact ⟨b.multiSigAddress, by simp [hvalid]⟩
      | ok _ => exact ⟨some address, by simp [hvalid]⟩

theorem Built.run
    (hnew : new crates multiSig selfKeyPair coSignerPublicKeys network requiredSignerNumber =
      .ok b₀) (run : Run (machine crates multiSig) b₀ log b) :
    Built selfKeyPair coSignerPublicKeys network requiredSignerNumber b := by
  refine run.state_invariant (Built selfKeyPair coSignerPublicKeys network requiredSignerNumber)
    (Built.start hnew) ?_
  intro t c h
  obtain ⟨address, hnext⟩ := next_eq t c
  rw [hnext]
  exact ⟨h.keyPair, h.signerPublicKeys, h.network, h.requiredSignerNumber⟩

theorem mapM_id_map_some {α : Type} (values : List α) :
    (values.map some).mapM id = some values := by
  induction values with
  | nil => rfl
  | cons value rest ih => simp [List.mapM_cons, ih]

theorem mapM_id_eq_some {α : Type} {entries : List (Option α)} {values : List α}
    (h : entries.mapM id = some values) : entries = values.map some := by
  induction entries generalizing values with
  | nil =>
    obtain rfl : [] = values := by simpa using h
    rfl
  | cons entry rest ih =>
    simp only [List.mapM_cons, id_eq, Option.pure_def, Option.bind_eq_bind,
      Option.bind_eq_some_iff] at h
    obtain ⟨value, rfl, values', hrest, heq⟩ := h
    rw [← Option.some.inj heq, List.map_cons, ← ih hrest]

/-- The session gets the keys of the builder and the message of the call. -/
theorem MultiSigBuilder.createNewSession_eq_ok {message : String}
    {s : Session (nativeModule crates multiSig)} (h : b.createNewSession message = .ok s) :
    ∃ signerPublicKeys, b.signerPublicKeys = signerPublicKeys.map some ∧
      MultiSig.new (nativeModule crates multiSig) message b.keyPair signerPublicKeys = .ok s := by
  unfold createNewSession at h
  split at h
  · rename_i signerPublicKeys hkeys
    exact ⟨signerPublicKeys, mapM_id_eq_some hkeys, h⟩
  · split_ifs at h

theorem createNewSession_outcome (message : String) :
    outcome (machine crates multiSig) b (.createNewSession message) =
      (b.createNewSession message).map .session := by
  cases hnew : b.createNewSession message <;> simp [outcome, machine, hnew, Except.map]

/-- The session that is kept is made of the list and of the key pair, for a
message that is not empty. -/
theorem createNewSession_session {message : String} {session : Buffer}
    (hread : ∃ signerPublicKeys : List Buffer, b.signerPublicKeys = signerPublicKeys.map some) :
    (∃ s, outcome (machine crates multiSig) b (.createNewSession message) = .ok (.session s) ∧
        s.session = session) ↔
      message ≠ "" ∧ newSession crates multiSig message b.signerPublicKeys b.keyPair.publicKey
        b.keyPair.privateKey = .ok session := by
  obtain ⟨signerPublicKeys, hkeys⟩ := hread
  have hsession : b.createNewSession message =
      MultiSig.new (nativeModule crates multiSig) message b.keyPair signerPublicKeys := by
    unfold MultiSigBuilder.createNewSession
    rw [hkeys, mapM_id_map_some]
  have htwo : 2 ≤ signerPublicKeys.length := by
    have h := b.two_signers
    rwa [hkeys, List.length_map] at h
  have hnative : (nativeModule crates multiSig).multiSig.newSession message signerPublicKeys =
      newSession crates multiSig message (signerPublicKeys.map some) := rfl
  rw [createNewSession_outcome, hsession, hkeys, ← hnative]
  unfold MultiSig.new
  by_cases hmessage : message = ""
  · simp [hmessage, Except.map]
  · rw [dif_neg hmessage, dif_pos htwo]
    cases (nativeModule crates multiSig).multiSig.newSession message signerPublicKeys
        b.keyPair.publicKey b.keyPair.privateKey with
    | error e => simp [Except.map]
    | ok made => simp [Except.map, hmessage]

end ThalerNodelib.MultiSigBuilders
