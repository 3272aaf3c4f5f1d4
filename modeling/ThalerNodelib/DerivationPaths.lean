import ThalerNodelib.HDWallet

/-!
The derivation paths of the networks. A path is the text of the network up to
the account, then the account and the index in decimal with a mark between
them, so it tells both; and the text of Mainnet is its own.
-/
namespace ThalerNodelib.Wallets

open Js Native Network Templates

/-- The networks of the library besides Mainnet. -/
inductive TestNetwork : NetworkConfig → Prop
  | testnet : TestNetwork testnet
  | devnet {options : DevnetOptions} {network : NetworkConfig} :
      devnet options = .ok network → TestNetwork network

/-- The path of the format of a network for an account and an index. -/
def walletPath (network : NetworkConfig) (account index : ℕ) : Except JsError String :=
  derivationPath network.bip44Path [.ofNat account, .ofNat index]

/-- A path in characters: `head`, the account, `'/0/` and the index. -/
def pathChars (head : String) (account index : ℕ) : List Char :=
  head.toList ++
    (Nat.toDigits 10 account ++ '\'' :: ("/0/".toList ++ Nat.toDigits 10 index))

variable {network : NetworkConfig} {account index account' index' : ℕ}

theorem toDigits_inj {n m : ℕ} (h : Nat.toDigits 10 n = Nat.toDigits 10 m) : n = m := by
  have hread := congrArg (fun digits => Nat.ofDigitChars 10 digits 0) h
  simpa using hread

theorem quote_notMem_toDigits (n : ℕ) : '\'' ∉ Nat.toDigits 10 n := by
  intro h
  exact absurd (Nat.isDigit_of_mem_toDigits (by omega) (by omega) h) (by decide)

/-- The numerals do not run together: the mark between them is no digit. -/
theorem pathChars_inj {head : String}
    (h : pathChars head account index = pathChars head account' index') :
    account = account' ∧ index = index' := by
  have hquote : '\'' ∉ "/0/".toList ++ Nat.toDigits 10 index := by
    rw [List.mem_append, not_or]
    exact ⟨by decide, quote_notMem_toDigits index⟩
  have hnumerals := List.append_cancel_left h
  rw [List.append_cons_inj_of_notMem (quote_notMem_toDigits account) hquote] at hnumerals
  obtain ⟨haccount, -, hindex⟩ := hnumerals
  exact ⟨toDigits_inj haccount, toDigits_inj (List.append_cancel_left hindex)⟩

theorem owUint32_ofNat {n : ℕ} (hn : n < 2 ^ 32) : owUint32 (.ofNat n) = none :=
  owUint_eq_none.mpr ⟨n, by omega, rfl⟩

theorem walletPath_eq {head : String}
    (hformat : (parse braces network.bip44Path.toList).head = head.toList ∧
      (parse braces network.bip44Path.toList).holes =
        [("ACCOUNT".toList, "'/0/".toList), ("INDEX".toList, [])])
    (haccount : account < 2 ^ 32) (hindex : index < 2 ^ 32) :
    walletPath network account index = .ok (String.ofList (pathChars head account index)) := by
  have haccepted : owArgs [.ofNat account, .ofNat index] = none := by
    simp [owArgs, owUint32_ofNat haccount, owUint32_ofNat hindex]
  have htexts : texts [.ofNat account, .ofNat index] =
      [Nat.toDigits 10 account, Nat.toDigits 10 index] := by
    rw [texts, List.map_cons, List.map_singleton, JsNumber.toString_ofNat (by omega),
      JsNumber.toString_ofNat (by omega), Nat.toList_repr, Nat.toList_repr]
  have hlength : (parse braces network.bip44Path.toList).holes.length = 2 := by
    rw [hformat.2]
    rfl
  have hfill := derivationPath_fill haccepted (text_parse _) hlength
  rw [walletPath, hfill, htexts, Template.fill, hformat.1, hformat.2]
  simp [pathChars]

theorem walletPath_mainnet (haccount : account < 2 ^ 32) (hindex : index < 2 ^ 32) :
    walletPath mainnet account index =
      .ok (String.ofList (pathChars "m/44'/394'/" account index)) :=
  walletPath_eq ⟨rfl, rfl⟩ haccount hindex

/-- The format of a Devnet does not depend on its options. -/
theorem TestNetwork.bip44Path_eq (h : TestNetwork network) :
    network.bip44Path = Network.testnet.bip44Path := by
  cases h with
  | testnet => rfl
  | devnet hdevnet =>
    obtain ⟨_, -, hconfig⟩ := bind_eq_ok.mp hdevnet
    obtain rfl := Except.ok.inj hconfig
    rfl

theorem walletPath_test (h : TestNetwork network) (haccount : account < 2 ^ 32)
    (hindex : index < 2 ^ 32) :
    walletPath network account index =
      .ok (String.ofList (pathChars "m/44'/1'/" account index)) := by
  refine walletPath_eq ?_ haccount hindex
  rw [h.bip44Path_eq]
  exact ⟨rfl, rfl⟩

/-- A wallet derives the keys of a network at these paths. -/
theorem derivef_bip44Path (native : NativeModule) (bip32 : Bip32) (wallet : HDWallet)
    (network : NetworkConfig) (account index : ℕ) :
    derivef native bip32 wallet network.bip44Path [.ofNat account, .ofNat index] =
      walletPath network account index >>= derive native bip32 wallet := by
  rw [derivef, walletPath]

/-- The paths of a network are told apart by their accounts and indices, and
those of Mainnet from all others; they are where a wallet derives. -/
theorem paths_collision_free :
    (∀ network, network = mainnet ∨ TestNetwork network →
      ∀ account index account' index', account < 2 ^ 32 → index < 2 ^ 32 →
        account' < 2 ^ 32 → index' < 2 ^ 32 →
        ∃ path path', walletPath network account index = .ok path ∧
          walletPath network account' index' = .ok path' ∧
          (path = path' → account = account' ∧ index = index')) ∧
    (∀ network, TestNetwork network →
      ∀ account index account' index', account < 2 ^ 32 → index < 2 ^ 32 →
        account' < 2 ^ 32 → index' < 2 ^ 32 →
        ∃ path path', walletPath mainnet account index = .ok path ∧
          walletPath network account' index' = .ok path' ∧ path ≠ path') ∧
    ∀ (native : NativeModule) (bip32 : Bip32) (wallet : HDWallet) network account index,
      derivef native bip32 wallet network.bip44Path [.ofNat account, .ofNat index] =
        walletPath network account index >>= derive native bip32 wallet := by
  refine ⟨?_, ?_, derivef_bip44Path⟩
  · intro network hnetwork account index account' index' haccount hindex haccount' hindex'
    rcases hnetwork with rfl | hnetwork
    · refine ⟨_, _, walletPath_mainnet haccount hindex, walletPath_mainnet haccount' hindex', ?_⟩
      intro heq
      exact pathChars_inj (String.ofList_injective heq)
    · refine ⟨_, _, walletPath_test hnetwork haccount hindex,
        walletPath_test hnetwork haccount' hindex', ?_⟩
      intro heq
      exact pathChars_inj (String.ofList_injective heq)
  · intro network hnetwork account index account' index' haccount hindex haccount' hindex'
    refine ⟨_, _, walletPath_mainnet haccount hindex,
      walletPath_test hnetwork haccount' hindex', ?_⟩
    intro heq
    -- the seventh characters are those of the coin types
    have hcoin := congrArg (fun chars => chars[6]?) (String.ofList_injective heq)
    simp [pathChars] at hcoin

end ThalerNodelib.Wallets
