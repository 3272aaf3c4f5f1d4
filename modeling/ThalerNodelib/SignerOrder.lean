import ThalerNodelib.SignerPolicy

/-!
Verification by the parties of one multi-sig. Each party lists the signers in an
order of its own, with its own key last. The native module reads the keys in
that order and then sorts them, so that neither a failure nor the combined key
shows the order.
-/
namespace ThalerNodelib.MultiSigBuilders

open Js Native Crates Runs NativeMultiSig MultiSig

/-- The same signers, as two parties list them: in any order, with their keys in
either encoding. Entries that are no keys count, too. -/
def SameSigners (crates : Crates) (entries entries' : List (Option Buffer)) : Prop :=
  (entries.map fun entry => (publicKeyEntry crates entry).toOption).Perm
    (entries'.map fun entry => (publicKeyEntry crates entry).toOption)

section Order
variable {crates : Crates} {multiSig : MultiSigCrate crates.types}

/-- The keys of the same signers are read or refused together. -/
theorem publicKeyVectorArgument_same {entries entries' : List (Option Buffer)}
    (h : SameSigners crates entries entries') :
    (∃ keys keys', publicKeyVectorArgument crates entries = .ok keys ∧
      publicKeyVectorArgument crates entries' = .ok keys' ∧ keys.Perm keys') ∨
    ∃ e e', publicKeyVectorArgument crates entries = .error e ∧
      publicKeyVectorArgument crates entries' = .error e' := by
  cases hkeys : publicKeyVectorArgument crates entries with
  | ok keys =>
    obtain ⟨keys', hkeys', hperm⟩ := mapM_perm h hkeys
    exact Or.inl ⟨keys, keys', rfl, hkeys', hperm.symm⟩
  | error e =>
    cases hkeys' : publicKeyVectorArgument crates entries' with
    | error e' => exact Or.inr ⟨e, e', rfl, rfl⟩
    | ok keys' =>
      obtain ⟨keys, hread, -⟩ := mapM_perm h.symm hkeys'
      have hcontra := hkeys.symm.trans hread
      cases hcontra

theorem verify_same {entries entries' : List (Option Buffer)}
    (h : SameSigners crates entries entries') (signature : Buffer) (message : String) :
    (verify crates multiSig signature message entries).toOption =
      (verify crates multiSig signature message entries').toOption := by
  unfold verify
  refine toOption_bind_congr fun signature => ?_
  refine toOption_bind_congr fun message => ?_
  refine toOption_bind_congr fun message => ?_
  rcases publicKeyVectorArgument_same h with ⟨keys, keys', hkeys, hkeys', hperm⟩ |
    ⟨e, e', he, he'⟩
  · rw [hkeys, hkeys']
    simp only [bind, Except.bind, sortKeys_perm hperm]
  · rw [he, he']
    rfl

/-- No call changes the message of a session. -/
theorem message_step {native : NativeModule} {s t : Session native} {c : Call} {v : Value}
    (h : Step native s c v t) : t.message = s.message := by
  cases h with
  | read _ _ _ => rfl
  | generated phase value session _ _ => cases phase <;> rfl
  | added phase publicKey value session _ _ => cases phase <;> rfl
  | signed signature _ _ => rfl

/-- A session keeps the message and the keys that the builder made it with. -/
theorem createNewSession_run {b : Builder crates multiSig} {message : String}
    {s t : Session (nativeModule crates multiSig)}
    {log : List (Event (nativeModule crates multiSig))}
    (hs : b.createNewSession message = .ok s)
    (run : Run (MultiSig.machine (nativeModule crates multiSig)) s log t) :
    t.message = message ∧ t.signerPublicKeys.map some = b.signerPublicKeys := by
  obtain ⟨signerPublicKeys, hkeys, hnew⟩ := MultiSigBuilder.createNewSession_eq_ok hs
  have hsigners : t.signerPublicKeys = signerPublicKeys :=
    (Fixed.run hnew run).signers.trans (new_eq_ok hnew).2.1
  have hmessage : s.message = message := by
    unfold MultiSig.new at hnew
    split_ifs at hnew
    split at hnew
    · cases hnew
    · obtain rfl := Except.ok.inj hnew
      rfl
  have hkept := run_keeps (fun t => t.message) (fun _ _ _ _ h => message_step h) run
  exact ⟨hkept.trans hmessage, by rw [hsigners, hkeys]⟩

/-- The sessions of two parties agree on every signature, in all states that they reach. -/
theorem verify_signer_order {b₁ b₂ : Builder crates multiSig} {message : String}
    {s₁ s₂ t₁ t₂ : Session (nativeModule crates multiSig)}
    {log₁ log₂ : List (Event (nativeModule crates multiSig))}
    (hsigners : SameSigners crates b₁.signerPublicKeys b₂.signerPublicKeys)
    (hs₁ : b₁.createNewSession message = .ok s₁) (hs₂ : b₂.createNewSession message = .ok s₂)
    (run₁ : Run (MultiSig.machine (nativeModule crates multiSig)) s₁ log₁ t₁)
    (run₂ : Run (MultiSig.machine (nativeModule crates multiSig)) s₂ log₂ t₂)
    (signature : Buffer) :
    (t₁.verify (some signature)).toOption = (t₂.verify (some signature)).toOption := by
  obtain ⟨hmessage₁, hkeys₁⟩ := createNewSession_run hs₁ run₁
  obtain ⟨hmessage₂, hkeys₂⟩ := createNewSession_run hs₂ run₂
  have hverify : ∀ t : Session (nativeModule crates multiSig), t.verify (some signature) =
      verify crates multiSig signature t.message (t.signerPublicKeys.map some) := fun _ => rfl
  rw [hverify, hverify, hmessage₁, hmessage₂, hkeys₁, hkeys₂]
  exact verify_same hsigners signature message

end Order

/-- The session of a party of two for a message of 32 bytes. -/
def Sample.session (own : UInt8) (coSigner : Buffer) :
    Except JsError (Session (nativeModule Crates.Sample.crates Sample.multiSig)) := do
  (← Sample.builder own coSigner (.ofNat 2)).createNewSession
    (hexEncode (Crates.Sample.privateKey 9))

theorem verify_signer_order_of_two :
    ∃ s₁ s₂, Sample.session 7 (Sample.publicKey 8) = .ok s₁ ∧
      Sample.session 8 (2 :: Crates.Sample.privateKey 7) = .ok s₂ ∧
      (s₁.verify (some (List.replicate 64 0))).toOption =
        (s₂.verify (some (List.replicate 64 0))).toOption := by
  have hsome₁ : (Sample.session 7 (Sample.publicKey 8)).toOption.isSome = true := by
    decide +kernel
  have hsome₂ : (Sample.session 8 (2 :: Crates.Sample.privateKey 7)).toOption.isSome = true := by
    decide +kernel
  obtain ⟨b₁, hb₁, hs₁⟩ := bind_eq_ok.mp (eq_ok_of_isSome hsome₁)
  obtain ⟨b₂, hb₂, hs₂⟩ := bind_eq_ok.mp (eq_ok_of_isSome hsome₂)
  have hsigners : SameSigners Crates.Sample.crates b₁.signerPublicKeys
      b₂.signerPublicKeys := by
    rw [(Built.start hb₁).signerPublicKeys, (Built.start hb₂).signerPublicKeys]
    unfold SameSigners
    decide +kernel
  exact ⟨_, _, eq_ok_of_isSome hsome₁, eq_ok_of_isSome hsome₂,
    verify_signer_order hsigners hs₁ hs₂ .start .start _⟩

end ThalerNodelib.MultiSigBuilders
