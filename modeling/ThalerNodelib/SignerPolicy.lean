import Mathlib.Data.List.Dedup
import ThalerNodelib.MultiSigBuilder
import ThalerNodelib.SampleCrates

/-!
What the constructor of the multi-sig builder establishes of its signers. Its
checks count the entries of the list, where the address is made from the keys
that the entries stand for and from a number without its fraction.
-/
namespace ThalerNodelib.MultiSigBuilders

open Js Native Network Crates KeyPairs ThalerNodelib.Types Runs NativeMultiSig

/-- What is documented of a serialised public key: it is read back, and so is its hex. -/
structure PublicKeyLaws {types : ChainTypes} (keys : KeyCrate types) : Prop where
  read : ∀ publicKey,
    keys.publicKeyDeserializeFrom (keys.publicKeySerialize publicKey) = .ok publicKey
  parse : ∀ publicKey,
    keys.publicKeyFromStr (hexEncodeUpper (keys.publicKeySerialize publicKey)) = .ok publicKey

section Signers
variable {crates : Crates} {multiSig : MultiSigCrate crates.types}

/-- What the calls of a builder hand to the native module: the entries of a list, a
key and a number. -/
structure HandsOver (entries : List (Option Buffer)) (own : Buffer)
    (requiredSignerNumber : JsNumber) (b : Builder crates multiSig) : Prop where
  createAddress : ∀ v, outcome (machine crates multiSig) b .createMultiSigAddress = .ok v ↔
    ∃ text, v = .address text ∧
      createAddress crates entries (some own) requiredSignerNumber b.network = .ok text ∧
      owTransferAddress (nativeModule crates multiSig) text = .ok none
  newSession : ∀ message session,
    (∃ s, outcome (machine crates multiSig) b (.createNewSession message) = .ok (.session s) ∧
      s.session = session) ↔
    message ≠ "" ∧ newSession crates multiSig message entries (some own) b.keyPair.privateKey =
      .ok session

/-- The policy of a list of keys and of the number that `createAddress` computes
of the required signers. -/
structure SignerPolicy [DecidableEq crates.types.PublicKey] (own : Buffer)
    (requiredSignerNumber : JsNumber) (keys : List crates.types.PublicKey) : Prop where
  own_once : ∃ key, crates.keys.publicKeyDeserializeFrom own = .ok key ∧ keys.count key = 1
  distinct : keys.Nodup
  cast_exact : JsNumber.ofNat (castUsize requiredSignerNumber) = requiredSignerNumber
  lower : 1 ≤ castUsize requiredSignerNumber
  upper : castUsize requiredSignerNumber ≤ keys.dedup.length

/-- Arguments of the constructor with as many signers as entries. -/
structure SoundSigners (own : Buffer) (requiredSignerNumber : JsNumber)
    (coSignerKeys : List crates.types.PublicKey) : Prop where
  distinct : coSignerKeys.Nodup
  others : ∀ key, crates.keys.publicKeyDeserializeFrom own = .ok key → key ∉ coSignerKeys
  integer : requiredSignerNumber.isInteger = true

/-- The keys of a builder: those of the co-signers and then its own. -/
def signerEntries (coSignerPublicKeys : List Buffer) (own : Buffer) : List (Option Buffer) :=
  joinKeys coSignerPublicKeys (some own)

/-! The keys of a list. -/

theorem publicKeyEntry_serialize (laws : PublicKeyLaws crates.keys) (key : crates.types.PublicKey) :
    publicKeyEntry crates (some (crates.keys.publicKeySerialize key)) = .ok key := by
  simp [publicKeyEntry, laws.parse, bind, Except.bind]

/-- The public key of a key pair is a serialised key. -/
theorem publicKey_serialized {keyPair : KeyPair (nativeModule crates multiSig)} {own : Buffer}
    (h : keyPair.publicKey = some own) : ∃ key, own = crates.keys.publicKeySerialize key := by
  obtain ⟨pk, cpk, sk, horigin⟩ := keyPair
  cases horigin with
  | new => cases h
  | publicKey _ hkeys =>
    obtain ⟨key, -, hserialized⟩ := bind_eq_ok.mp hkeys
    obtain rfl := Option.some.inj h
    exact ⟨key, (Prod.mk.inj (Except.ok.inj hserialized)).1.symm⟩
  | privateKey _ hkeys =>
    obtain ⟨privateKey, -, hserialized⟩ := bind_eq_ok.mp hkeys
    obtain rfl := Option.some.inj h
    exact ⟨_, (Prod.mk.inj (Except.ok.inj hserialized)).1.symm⟩

/-- The list is read when the keys of the co-signers are, and ends in one's own. -/
theorem signerEntries_read (laws : PublicKeyLaws crates.keys) (coSignerPublicKeys : List Buffer)
    (key : crates.types.PublicKey) (keys : List crates.types.PublicKey) :
    publicKeyVectorArgument crates
        (signerEntries coSignerPublicKeys (crates.keys.publicKeySerialize key)) = .ok keys ↔
      ∃ coSignerKeys,
        publicKeyVectorArgument crates (coSignerPublicKeys.map some) = .ok coSignerKeys ∧
        keys = coSignerKeys ++ [key] := by
  have hlast := publicKeyEntry_serialize laws key
  simp only [publicKeyVectorArgument, signerEntries, joinKeys, List.mapM_append, List.mapM_cons,
    List.mapM_nil, hlast, bind_eq_ok]
  constructor
  · intro h
    obtain ⟨coSignerKeys, hread, last, hlast, hkeys⟩ := h
    obtain ⟨_, hkey, _, hnil, hone⟩ := hlast
    obtain rfl := Except.ok.inj hkey
    obtain rfl := Except.ok.inj hnil
    obtain rfl := Except.ok.inj hone
    exact ⟨coSignerKeys, hread, (Except.ok.inj hkeys).symm⟩
  · intro h
    obtain ⟨coSignerKeys, hread, rfl⟩ := h
    exact ⟨coSignerKeys, hread, [key], ⟨key, rfl, [], rfl, rfl⟩, rfl⟩

/-! The number of signers. -/

theorem natural_of_integer {x : JsNumber} (hinteger : x.isInteger = true)
    (hlower : (JsNumber.ofNat 1).le x = true) : ∃ n, 1 ≤ n ∧ x = .ofNat n := by
  have hpos : (JsNumber.ofNat 0).le x = true := by
    cases x with
    | nan => cases hinteger
    | infinity negative => cases hinteger
    | finite q =>
      have hone : (1 : ℚ) ≤ q := by simpa [JsNumber.le, JsNumber.ofNat] using hlower
      simpa [JsNumber.le, JsNumber.ofNat] using zero_le_one.trans hone
  obtain ⟨n, rfl⟩ := JsNumber.eq_ofNat_of_integer hinteger hpos
  exact ⟨n, by simpa [JsNumber.ofNat_le_ofNat] using hlower, rfl⟩

/-- The cast keeps an integral number of signers. -/
theorem castUsize_integer (b : Builder crates multiSig)
    (hinteger : b.requiredSignerNumber.isInteger = true) :
    ∃ n, b.requiredSignerNumber = .ofNat n ∧ castUsize b.requiredSignerNumber = n ∧ 1 ≤ n ∧
      n ≤ b.signerPublicKeys.length := by
  obtain ⟨n, hone, hn⟩ := natural_of_integer hinteger b.required_lower
  have hupper : n ≤ b.signerPublicKeys.length := by
    have h := b.required_upper
    rw [hn, JsNumber.ofNat_le_ofNat] at h
    exact of_decide_eq_true h
  have harray := b.array
  refine ⟨n, hn, ?_, hone, hupper⟩
  rw [hn, castUsize, JsNumber.toUnsigned_ofNat]
  omega

/-! The policy. -/

section Policy
variable {selfKeyPair : KeyPair (nativeModule crates multiSig)} {own : Buffer}
  {coSignerPublicKeys : List Buffer} {network : String} {requiredSignerNumber : JsNumber}
  {b b₀ : Builder crates multiSig}
  {log : Log JsError (Builder crates multiSig) BuilderCall (BuilderValue crates multiSig)}

theorem Built.handsOver (hown : selfKeyPair.publicKey = some own)
    (h : Built selfKeyPair coSignerPublicKeys network requiredSignerNumber b) :
    HandsOver (signerEntries coSignerPublicKeys own) own requiredSignerNumber b := by
  have hentries : b.signerPublicKeys = signerEntries coSignerPublicKeys own := by
    rw [h.signerPublicKeys, hown]
    rfl
  have hself : b.keyPair.publicKey = some own := by rw [h.keyPair, hown]
  have hread : ∃ keys : List Buffer, b.signerPublicKeys = keys.map some :=
    ⟨coSignerPublicKeys ++ [own], by simp [hentries, signerEntries, joinKeys]⟩
  refine ⟨fun v => ?_, fun message session => ?_⟩
  · rw [createMultiSigAddress_eq_ok, hentries, hself, h.requiredSignerNumber]
  · rw [createNewSession_session hread, hentries, hself]

/-- A list that is not read fails both calls. -/
theorem HandsOver.read {entries : List (Option Buffer)}
    (h : HandsOver entries own requiredSignerNumber b) {c : BuilderCall}
    {v : BuilderValue crates multiSig} (hv : outcome (machine crates multiSig) b c = .ok v) :
    ∃ keys, publicKeyVectorArgument crates entries = .ok keys := by
  cases c with
  | createMultiSigAddress =>
    obtain ⟨address, -, hcreate, -⟩ := (h.createAddress v).mp hv
    obtain ⟨keys, hkeys, -⟩ := bind_eq_ok.mp hcreate
    exact ⟨keys, hkeys⟩
  | createNewSession message =>
    rw [createNewSession_outcome] at hv
    obtain ⟨s, hs, rfl⟩ := map_eq_ok.mp hv
    have hmade : outcome (machine crates multiSig) b (.createNewSession message) =
        .ok (.session s) := by
      rw [createNewSession_outcome, hs]
      rfl
    obtain ⟨-, hnew⟩ := (h.newSession message s.session).mp ⟨s, hmade, rfl⟩
    obtain ⟨_, -, hnew⟩ := bind_eq_ok.mp hnew
    obtain ⟨keys, hkeys, -⟩ := bind_eq_ok.mp hnew
    exact ⟨keys, hkeys⟩

variable [DecidableEq crates.types.PublicKey]

theorem SignerPolicy.sound {key : crates.types.PublicKey}
    {coSignerKeys : List crates.types.PublicKey}
    (hread : crates.keys.publicKeyDeserializeFrom own = .ok key)
    (h : SignerPolicy own requiredSignerNumber (coSignerKeys ++ [key])) :
    SoundSigners own requiredSignerNumber coSignerKeys := by
  have hdistinct := h.distinct
  rw [← List.concat_eq_append, List.nodup_concat] at hdistinct
  refine ⟨hdistinct.2, ?_, ?_⟩
  · intro key' hread'
    rw [ok_unique hread' hread]
    exact hdistinct.1
  · rw [← h.cast_exact]
    exact JsNumber.isInteger_ofNat _

theorem SoundSigners.policy {key : crates.types.PublicKey}
    {coSignerKeys : List crates.types.PublicKey}
    (hread : crates.keys.publicKeyDeserializeFrom own = .ok key)
    (hcoSigners : publicKeyVectorArgument crates (coSignerPublicKeys.map some) = .ok coSignerKeys)
    (hbuilt : Built selfKeyPair coSignerPublicKeys network requiredSignerNumber b)
    (h : SoundSigners own requiredSignerNumber coSignerKeys) :
    SignerPolicy own requiredSignerNumber (coSignerKeys ++ [key]) := by
  have hinteger := h.integer
  rw [← hbuilt.requiredSignerNumber] at hinteger
  obtain ⟨n, hn, hcast, hlower, hupper⟩ := castUsize_integer b hinteger
  rw [hbuilt.requiredSignerNumber] at hn hcast
  have hlength : coSignerKeys.length = coSignerPublicKeys.length := by
    have hall := (mapM_eq_ok _ _ _).mp hcoSigners
    rw [← hall.length_eq, List.length_map]
  have hdistinct : (coSignerKeys ++ [key]).Nodup := by
    rw [← List.concat_eq_append, List.nodup_concat]
    exact ⟨h.others key hread, h.distinct⟩
  refine ⟨⟨key, hread, ?_⟩, hdistinct, ?_, ?_, ?_⟩
  · apply List.count_eq_one_of_mem hdistinct
    simp
  · rw [hcast, hn]
  · rw [hcast]
    exact hlower
  · rw [hcast, hdistinct.dedup, List.length_append, List.length_singleton, hlength]
    rw [hbuilt.signerPublicKeys, joinKeys_length] at hupper
    exact hupper

/-- What a builder hands over, what the address is made of, and when that meets the
policy. A list with an entry that is no public key fails both calls. -/
structure PolicyDecided (own : Buffer) (coSignerPublicKeys : List Buffer)
    (requiredSignerNumber : JsNumber) (b : Builder crates multiSig) : Prop where
  handsOver : HandsOver (signerEntries coSignerPublicKeys own) own requiredSignerNumber b
  unread : (¬ ∃ coSignerKeys, publicKeyVectorArgument crates (coSignerPublicKeys.map some) =
      .ok coSignerKeys) → ∀ c v, outcome (machine crates multiSig) b c ≠ .ok v
  made : ∀ text, outcome (machine crates multiSig) b .createMultiSigAddress =
      .ok (.address text) →
    ∃ keys key named address,
      publicKeyVectorArgument crates (signerEntries coSignerPublicKeys own) = .ok keys ∧
      crates.keys.publicKeyDeserializeFrom own = .ok key ∧
      crates.keys.multiSigAddressNew keys key (castUsize requiredSignerNumber) = .ok address ∧
      crates.keys.toCro (crates.keys.extendedAddrFrom address) named = .ok text
  policy_iff : ∀ coSignerKeys, publicKeyVectorArgument crates (coSignerPublicKeys.map some) =
      .ok coSignerKeys →
    ∃ keys, publicKeyVectorArgument crates (signerEntries coSignerPublicKeys own) = .ok keys ∧
      (SignerPolicy own requiredSignerNumber keys ↔
        SoundSigners own requiredSignerNumber coSignerKeys)

/-- In every state of a builder the policy holds of what it hands over exactly when
the arguments of the constructor had as many signers as entries. -/
theorem signer_policy_iff (laws : PublicKeyLaws crates.keys)
    (hown : selfKeyPair.publicKey = some own)
    (hnew : new crates multiSig selfKeyPair coSignerPublicKeys network requiredSignerNumber =
      .ok b₀) (run : Run (machine crates multiSig) b₀ log b) :
    PolicyDecided own coSignerPublicKeys requiredSignerNumber b := by
  have hbuilt := Built.run hnew run
  have hhands := hbuilt.handsOver hown
  obtain ⟨key, rfl⟩ := publicKey_serialized hown
  refine ⟨hhands, ?_, ?_, ?_⟩
  · intro hunread c v hv
    obtain ⟨keys, hkeys⟩ := hhands.read hv
    obtain ⟨coSignerKeys, hread, -⟩ := (signerEntries_read laws _ _ _).mp hkeys
    exact hunread ⟨coSignerKeys, hread⟩
  · intro text htext
    obtain ⟨made, hmade, hcreate, -⟩ := (hhands.createAddress _).mp htext
    obtain rfl := BuilderValue.address.inj hmade
    obtain ⟨keys, own, named, address, hkeys, hown, -, haddress, htext⟩ :=
      createAddress_eq_ok.mp hcreate
    exact ⟨keys, own, named, address, hkeys, hown, haddress, htext⟩
  · intro coSignerKeys hread
    refine ⟨coSignerKeys ++ [key],
      (signerEntries_read laws _ _ _).mpr ⟨coSignerKeys, hread, rfl⟩, ?_, ?_⟩
    · exact SignerPolicy.sound (laws.read key)
    · exact SoundSigners.policy (laws.read key) hread hbuilt

end Policy
end Signers

/-! Crates to run a builder on. A session of client-core is the message and the
key that signs it, the first one. -/
namespace Sample

open Crates.Sample

@[reducible] def publicKeyOrd : LinearOrder (Bytes 33) :=
  LinearOrder.lift' (fun publicKey => publicKey.val.map UInt8.toNat) fun _ _ h =>
    Subtype.ext (List.map_injective_iff.mpr (fun _ _ => UInt8.toNat_inj.mp) h)

def schnorrSignature (publicKey : Bytes 33) (message : Buffer) : Bytes 64 :=
  fixed 64 (publicKey.val.drop 1 ++ message)

def multiSig : MultiSigCrate Crates.Sample.crates.types where
  Session := Bytes 32 × Bytes 33
  new message publicKeys _ _ :=
    match publicKeys with
    | [] => .error "No signers"
    | publicKey :: _ => .ok (message, publicKey)
  toIncomplete session := session.1.val ++ session.2.val
  fromIncompleteInsecure bytes := .ok (fixed 32 (bytes.take 32), fixed 33 (bytes.drop 32))
  nonceCommitment session := .ok (fixed 32 [1], session)
  addNonceCommitment session _ _ := .ok session
  nonce session := .ok (fixed 32 [2], session)
  addNonce session _ _ := .ok session
  partialSignature session := .ok (fixed 32 [3], session)
  addPartialSignature session _ _ := .ok session
  signature session := .ok (schnorrSignature session.2 session.1.val)
  serializeDefault signature := signature.val
  schnorrSignatureFromDefault := ofLength 64 "signature is malformed"
  publicKeyOrd := publicKeyOrd
  combine publicKeys :=
    match publicKeys with
    | [] => .error "No public keys"
    | publicKey :: _ => .ok publicKey
  schnorrVerify (message : Bytes 32) (signature : Bytes 64) (publicKey : Bytes 33) :=
    if signature = schnorrSignature publicKey message.val then .ok ()
    else .error "Invalid signature"

instance : DecidableEq Crates.Sample.crates.types.PublicKey :=
  inferInstanceAs (DecidableEq (Bytes 33))

/-- The uncompressed public key of the private key that starts with the byte. -/
def publicKey (b : UInt8) : Buffer := 4 :: privateKey b ++ List.replicate 31 0 ++ [2]

/-- The key that it is read as. -/
def key (b : UInt8) : Crates.Sample.crates.types.PublicKey := fixed 33 (2 :: privateKey b)

def keyPair (b : UInt8) : KeyPair (nativeModule Crates.Sample.crates multiSig) :=
  ⟨some (publicKey b), some (2 :: privateKey b), some (privateKey b), .privateKey rfl rfl⟩

theorem public_key_laws : PublicKeyLaws Crates.Sample.crates.keys where
  read := publicKey_read
  parse publicKey := by
    have hparse : Crates.Sample.crates.keys.publicKeyFromStr
        (hexEncodeUpper (publicKeySerialize publicKey)) =
          hexDecode (hexEncodeUpper (publicKeySerialize publicKey)) >>= publicKeyDeserializeFrom :=
      rfl
    exact hparse.trans (bind_eq_ok.mpr ⟨_, hexDecode_hexEncodeUpper _, publicKey_read publicKey⟩)

def builder (own : UInt8) (coSigner : Buffer) (requiredSignerNumber : JsNumber) :
    Except JsError (Builder Crates.Sample.crates multiSig) :=
  new Crates.Sample.crates multiSig (keyPair own) [coSigner] "Devnet" requiredSignerNumber

end Sample

theorem signer_policy_iff_two_of_two :
    ∃ b, Sample.builder 7 (Sample.publicKey 8) (.ofNat 2) = .ok b ∧
      PolicyDecided (Sample.publicKey 7) [Sample.publicKey 8] (.ofNat 2) b := by
  have hnew : (Sample.builder 7 (Sample.publicKey 8) (.ofNat 2)).toOption.isSome = true := by
    decide +kernel
  exact ⟨_, eq_ok_of_isSome hnew,
    signer_policy_iff Sample.public_key_laws rfl (eq_ok_of_isSome hnew) .start⟩

/-- One's own key among the co-signers is counted as another signer, and a
fraction of a signer is required. -/
theorem own_key_and_fraction_accepted :
    (∃ b, Sample.builder 7 (2 :: Crates.Sample.privateKey 7) (.ofNat 2) = .ok b ∧
      HandsOver (signerEntries [2 :: Crates.Sample.privateKey 7] (Sample.publicKey 7))
        (Sample.publicKey 7) (.ofNat 2) b ∧
      publicKeyVectorArgument Crates.Sample.crates
        (signerEntries [2 :: Crates.Sample.privateKey 7] (Sample.publicKey 7)) =
          .ok [Sample.key 7, Sample.key 7] ∧
      ¬ SignerPolicy (Sample.publicKey 7) (.ofNat 2)
        [Sample.key 7, Sample.key 7]) ∧
    ∃ b, Sample.builder 7 (Sample.publicKey 8) (.finite (3 / 2)) = .ok b ∧
      HandsOver (signerEntries [Sample.publicKey 8] (Sample.publicKey 7)) (Sample.publicKey 7)
        (.finite (3 / 2)) b ∧
      publicKeyVectorArgument Crates.Sample.crates
        (signerEntries [Sample.publicKey 8] (Sample.publicKey 7)) =
          .ok [Sample.key 8, Sample.key 7] ∧
      ¬ SignerPolicy (Sample.publicKey 7) (.finite (3 / 2))
        [Sample.key 8, Sample.key 7] := by
  have hown : (Sample.builder 7 (2 :: Crates.Sample.privateKey 7) (.ofNat 2)).toOption.isSome =
    true := by decide +kernel
  have hfraction : (Sample.builder 7 (Sample.publicKey 8) (.finite (3 / 2))).toOption.isSome =
    true := by decide +kernel
  refine ⟨⟨_, eq_ok_of_isSome hown, (Built.start (eq_ok_of_isSome hown)).handsOver rfl, ?_, ?_⟩,
    ⟨_, eq_ok_of_isSome hfraction, (Built.start (eq_ok_of_isSome hfraction)).handsOver rfl, ?_, ?_⟩⟩
  · decide +kernel
  · intro h
    exact absurd h.distinct (by decide +kernel)
  · decide +kernel
  · intro h
    have hexact := h.cast_exact
    revert hexact
    decide +kernel

end ThalerNodelib.MultiSigBuilders
