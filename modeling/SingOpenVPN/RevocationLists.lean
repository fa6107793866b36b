import Mathlib.Data.List.Perm.Basic
import Mathlib.Data.List.FinRange
import SingOpenVPN.Basic

/-!
# Certificate revocation lists

`verifyAgainstCRL` checks a verified chain against the lists of the
`--crl-verify` file, one certificate after the other.  For each certificate it
selects **one** list of its issuer, the first that is inside its validity
window, and consults only that one.

A CA that has just revoked a certificate publishes a new list while the
previous one is still inside its window, so a file may hold both.  The module
settles for which files the outcome depends on the order of the lists in it,
and what an accepted chain then tells about revocation.
-/

namespace SingOpenVPN

open List

/-! ### Certificates and lists -/

/-- The fields of an `x509.Certificate` the revocation check reads. -/
structure Certificate where
  rawSubject : Bytes
  rawIssuer : Bytes
  serialNumber : Option Int
  /-- The object identifiers of `Extensions`. -/
  extensions : List (List Nat)
  keyUsage : Nat
deriving DecidableEq, Repr

/-- The fields of an `x509.RevocationList` the check reads.  `raw` is the
encoding the signature is over. -/
structure RevocationList where
  raw : Bytes
  rawIssuer : Bytes
  thisUpdate : Time
  nextUpdate : Option Time
  /-- The serial numbers of `RevokedCertificateEntries`. -/
  revokedCertificateEntries : List (Option Int)
deriving DecidableEq, Repr

structure PEMBlock where
  blockType : String
  bytes : Bytes

/-- The parts of `crypto/x509`, `encoding/pem` and `os` the check calls. -/
structure X509 where
  parseRevocationList : Bytes → Except String RevocationList
  pemDecode : Bytes → Option (PEMBlock × Bytes)
  /-- A block that was found has been cut off the front of the input. -/
  pemDecode_rest : ∀ data block rest,
    pemDecode data = some (block, rest) → rest.length < data.length
  /-- `RevocationList.CheckSignatureFrom` returns no error. -/
  checkSignatureFrom : RevocationList → Certificate → Bool
  readFile : String → Except String Bytes

inductive RevocationError where
  /-- `errClientSessionConfiguration` caused by "load CRL". -/
  | loadCRL (cause : String)
  /-- `ErrCRLUnavailable` -/
  | unavailable
  /-- `ErrCRLIssuerKeyUsage` -/
  | issuerKeyUsage
  /-- `ErrCRLExpired` -/
  | expired
  /-- `ErrCRLSignatureInvalid` -/
  | signatureInvalid
  /-- `ErrPeerCertificateRevoked` -/
  | revoked
deriving DecidableEq, Repr

def keyUsageExtensionOID : List Nat := [2, 5, 29, 15]

def keyUsageCRLSign : Nat := 64

def certificateHasKeyUsageExtension (certificate : Certificate) : Bool :=
  certificate.extensions.any (· == keyUsageExtensionOID)

/-! ### The check -/

def revocationListValidityError (revocationList : RevocationList) (now : Time) :
    Option RevocationError :=
  if now < revocationList.thisUpdate then some .expired
  else match revocationList.nextUpdate with
    | none => none
    | some nextUpdate => if nextUpdate < now then some .expired else none

def findCRLSignerInChain (chain : List Certificate) (rawIssuer : Bytes) : Option Certificate :=
  chain.find? (fun candidate => candidate.rawSubject == rawIssuer)

/-- The three `selected…` variables of `checkChainDepthAgainstCRL`, once one
list is selected. -/
structure SelectedList where
  list : RevocationList
  signer : Certificate
  withinValidity : Bool
deriving DecidableEq, Repr

def considerRevocationList (certificate : Certificate) (issuers : List Certificate) (now : Time)
    (selected : Option SelectedList) (revocationList : RevocationList) : Option SelectedList :=
  if revocationList.rawIssuer ≠ certificate.rawIssuer then selected
  else match findCRLSignerInChain issuers revocationList.rawIssuer with
    | none => selected
    | some signer =>
      let withinValidity := (revocationListValidityError revocationList now).isNone
      let outscoresSelected := match selected with
        | none => true
        | some best => withinValidity && !best.withinValidity
      if outscoresSelected then some ⟨revocationList, signer, withinValidity⟩ else selected

def revokesSerial (entries : List (Option Int)) (serialNumber : Option Int) : Bool :=
  entries.any (fun entry => match entry, serialNumber with
    | some revoked, some serial => revoked == serial
    | _, _ => false)

/-- The certificates the signer of a list for `depth` is looked for in. -/
def issuerChain (chain : List Certificate) (depth : Fin chain.length) : List Certificate :=
  chain.drop (if depth.val < chain.length - 1 then depth.val + 1 else depth.val)

variable (x509 : X509)

def checkSelectedList (certificate : Certificate) (now : Time) :
    Option SelectedList → Except RevocationError Unit
  | none => .error .unavailable
  | some selected =>
    if certificateHasKeyUsageExtension selected.signer
        && selected.signer.keyUsage &&& keyUsageCRLSign == 0 then
      .error .issuerKeyUsage
    else match revocationListValidityError selected.list now with
      | some err => .error err
      | none =>
        if !x509.checkSignatureFrom selected.list selected.signer then .error .signatureInvalid
        else if revokesSerial selected.list.revokedCertificateEntries certificate.serialNumber then
          .error .revoked
        else .ok ()

def checkChainDepthAgainstCRL (chain : List Certificate) (depth : Fin chain.length)
    (revocationLists : List RevocationList) (now : Time) : Except RevocationError Unit :=
  checkSelectedList x509 (chain.get depth) now
    (revocationLists.foldl
      (considerRevocationList (chain.get depth) (issuerChain chain depth) now) none)

/-- What `verifyAgainstCRL` does with the lists it has loaded. -/
def checkChainAgainstCRL (chain : List Certificate)
    (revocationLists : List RevocationList) (now : Time) : Except RevocationError Unit :=
  if chain.isEmpty then .error .unavailable
  else (List.finRange chain.length).forM
    (fun depth => checkChainDepthAgainstCRL x509 chain depth revocationLists now)

/-- The loop of `loadRevocationLists` over the PEM blocks of the file. -/
def decodeRevocationLists (x509 : X509) (remaining : Bytes) : Except String (List RevocationList) :=
  if remaining.isEmpty then .ok []
  else match _hdecode : x509.pemDecode remaining with
    | none => .ok []
    | some (pemBlock, rest) =>
      if pemBlock.blockType ≠ "X509 CRL" ∧ pemBlock.blockType ≠ "CRL" then
        decodeRevocationLists x509 rest
      else do
        let revocationList ← x509.parseRevocationList pemBlock.bytes
        let revocationLists ← decodeRevocationLists x509 rest
        return revocationList :: revocationLists
termination_by remaining.length
decreasing_by all_goals exact x509.pemDecode_rest _ _ _ _hdecode

def loadRevocationLists (crlPath : String) : Except String (List RevocationList) := do
  let crlBytes ← x509.readFile crlPath
  let revocationLists ← decodeRevocationLists x509 crlBytes
  -- a file without a PEM list is read as one DER list
  if revocationLists.isEmpty then
    let revocationList ← x509.parseRevocationList crlBytes
    return [revocationList]
  else return revocationLists

def verifyAgainstCRL (chain : List Certificate) (crlPath : String) (now : Time) :
    Except RevocationError Unit :=
  if crlPath = "" then .ok ()
  else match loadRevocationLists x509 crlPath with
    | .error cause => .error (.loadCRL cause)
    | .ok revocationLists => checkChainAgainstCRL x509 chain revocationLists now

/-! ### Which list is consulted -/

def RevocationList.CurrentlyValid (revocationList : RevocationList) (now : Time) : Prop :=
  revocationList.thisUpdate ≤ now ∧ ∀ nextUpdate ∈ revocationList.nextUpdate, now ≤ nextUpdate

def RevocationList.Revokes (revocationList : RevocationList) (certificate : Certificate) : Prop :=
  ∃ serial, certificate.serialNumber = some serial ∧
    some serial ∈ revocationList.revokedCertificateEntries

def Certificate.MaySignCRLs (certificate : Certificate) : Prop :=
  ¬ (certificateHasKeyUsageExtension certificate = true ∧
    certificate.keyUsage &&& keyUsageCRLSign = 0)

/-- The list is a currently valid one of the issuer of the certificate at
`depth`. -/
def Applies (chain : List Certificate) (now : Time) (depth : Fin chain.length)
    (revocationList : RevocationList) : Prop :=
  revocationList.rawIssuer = (chain.get depth).rawIssuer ∧ revocationList.CurrentlyValid now

/-- The list clears the certificate at `depth`: the chain holds its signer,
which signed it and may sign lists, and it does not revoke the certificate. -/
def Clears (chain : List Certificate) (depth : Fin chain.length)
    (revocationList : RevocationList) : Prop :=
  ∃ signer, findCRLSignerInChain (issuerChain chain depth) (chain.get depth).rawIssuer =
    some signer ∧
    signer.MaySignCRLs ∧ x509.checkSignatureFrom revocationList signer = true ∧
    ¬ revocationList.Revokes (chain.get depth)

variable {revocationList : RevocationList}

theorem revocationListValidityError_eq_none {now : Time} :
    revocationListValidityError revocationList now = none ↔ revocationList.CurrentlyValid now := by
  unfold revocationListValidityError RevocationList.CurrentlyValid
  by_cases hearly : now < revocationList.thisUpdate
  · simp [hearly]
  · cases revocationList.nextUpdate with
    | none | some nextUpdate => simp [hearly, not_lt.mp hearly]

instance (revocationList : RevocationList) (now : Time) :
    Decidable (revocationList.CurrentlyValid now) :=
  decidable_of_iff _ revocationListValidityError_eq_none

instance (chain : List Certificate) (now : Time) (depth : Fin chain.length)
    (revocationList : RevocationList) : Decidable (Applies chain now depth revocationList) :=
  inferInstanceAs (Decidable (_ ∧ _))

theorem revokesSerial_iff {certificate : Certificate} :
    revokesSerial revocationList.revokedCertificateEntries certificate.serialNumber = true ↔
      revocationList.Revokes certificate := by
  unfold revokesSerial RevocationList.Revokes
  rw [any_eq_true]
  constructor
  · rintro ⟨entry, hentry, hequal⟩
    cases entry with
    | none => simp at hequal
    | some revoked =>
      cases hserial : certificate.serialNumber with
      | none => simp [hserial] at hequal
      | some serial =>
        simp only [hserial, beq_iff_eq] at hequal
        exact ⟨serial, rfl, hequal ▸ hentry⟩
  · rintro ⟨serial, hserial, hentry⟩
    exact ⟨some serial, hentry, by simp [hserial]⟩

section Selection

variable {certificate : Certificate} {issuers : List Certificate} {now : Time}
  {selected : Option SelectedList} {revocationLists : List RevocationList}

theorem considerRevocationList_cases (certificate : Certificate) (issuers : List Certificate)
    (now : Time) (selected : Option SelectedList) (revocationList : RevocationList) :
    considerRevocationList certificate issuers now selected revocationList = selected ∨
      ∃ signer, revocationList.rawIssuer = certificate.rawIssuer ∧
        considerRevocationList certificate issuers now selected revocationList
          = some ⟨revocationList, signer,
            (revocationListValidityError revocationList now).isNone⟩ := by
  unfold considerRevocationList
  by_cases hissuer : revocationList.rawIssuer = certificate.rawIssuer
  · rw [if_neg (not_not.mpr hissuer)]
    cases findCRLSignerInChain issuers revocationList.rawIssuer with
    | none => exact .inl rfl
    | some signer =>
      cases selected with
      | none => exact .inr ⟨signer, hissuer, rfl⟩
      | some best =>
        dsimp only
        split
        · exact .inr ⟨signer, hissuer, rfl⟩
        · exact .inl rfl
  · exact .inl (if_pos hissuer)

theorem foldl_consider_of_within {best : SelectedList} (hbest : best.withinValidity = true) :
    revocationLists.foldl (considerRevocationList certificate issuers now) (some best)
      = some best := by
  induction revocationLists with
  | nil => rfl
  | cons revocationList rest ih =>
    have hkeep : considerRevocationList certificate issuers now (some best) revocationList
        = some best := by
      unfold considerRevocationList
      split
      · rfl
      · split
        · rfl
        · simp [hbest]
    rw [foldl_cons, hkeep, ih]

theorem foldl_consider_of_no_signer
    (hsigner : findCRLSignerInChain issuers certificate.rawIssuer = none) :
    revocationLists.foldl (considerRevocationList certificate issuers now) selected = selected := by
  induction revocationLists with
  | nil => rfl
  | cons revocationList rest ih =>
    have hkeep : considerRevocationList certificate issuers now selected revocationList
        = selected := by
      unfold considerRevocationList
      split
      · rfl
      · rename_i hissuer
        rw [not_not.mp hissuer, hsigner]
    rw [foldl_cons, hkeep, ih]

theorem foldl_consider_of_find {signer : Certificate} {revocationList : RevocationList}
    (hsigner : findCRLSignerInChain issuers certificate.rawIssuer = some signer)
    (hselected : ∀ best ∈ selected, best.withinValidity = false)
    (hfind : revocationLists.find? (fun list =>
      list.rawIssuer = certificate.rawIssuer ∧ list.CurrentlyValid now) = some revocationList) :
    revocationLists.foldl (considerRevocationList certificate issuers now) selected
      = some ⟨revocationList, signer, true⟩ := by
  induction revocationLists generalizing selected with
  | nil => simp at hfind
  | cons first rest ih =>
    rw [foldl_cons]
    by_cases happlies : first.rawIssuer = certificate.rawIssuer ∧ first.CurrentlyValid now
    · obtain rfl : first = revocationList := by simpa [happlies] using hfind
      have hfirst : considerRevocationList certificate issuers now selected first
          = some ⟨first, signer, true⟩ := by
        have hvalid := revocationListValidityError_eq_none.mpr happlies.2
        unfold considerRevocationList
        cases selected with
        | none => simp [happlies.1, hsigner, hvalid]
        | some best => simp [happlies.1, hsigner, hvalid, hselected best rfl]
      rw [hfirst]
      exact foldl_consider_of_within rfl
    · rw [List.find?_cons_of_neg (by simpa using happlies)] at hfind
      refine ih ?_ hfind
      -- a list that does not apply can only be selected as one outside its window
      intro best hbest
      rcases considerRevocationList_cases certificate issuers now selected first with
        hkeep | ⟨signer', hissuer, hselect⟩
      · exact hselected best (hkeep ▸ hbest)
      · rw [hselect] at hbest
        cases hbest
        rw [← Bool.not_eq_true, Option.isNone_iff_eq_none, revocationListValidityError_eq_none]
        exact fun hvalid => happlies ⟨hissuer, hvalid⟩

theorem foldl_consider_none_of_find (issuers : List Certificate)
    (hselected : ∀ best ∈ selected, revocationListValidityError best.list now ≠ none)
    (hfind : revocationLists.find? (fun list =>
      list.rawIssuer = certificate.rawIssuer ∧ list.CurrentlyValid now) = none) :
    ∀ best ∈ revocationLists.foldl (considerRevocationList certificate issuers now) selected,
      revocationListValidityError best.list now ≠ none := by
  induction revocationLists generalizing selected with
  | nil => exact hselected
  | cons first rest ih =>
    rw [List.find?_eq_none] at hfind
    have hfirst : ¬ (first.rawIssuer = certificate.rawIssuer ∧ first.CurrentlyValid now) := by
      simpa using hfind first (by simp)
    refine ih ?_ (List.find?_eq_none.mpr fun list hlist => hfind list (mem_cons_of_mem _ hlist))
    intro best hbest
    rcases considerRevocationList_cases certificate issuers now selected first with
      hkeep | ⟨signer, hissuer, hselect⟩
    · exact hselected best (hkeep ▸ hbest)
    · rw [hselect] at hbest
      cases hbest
      rw [Ne, revocationListValidityError_eq_none]
      exact fun hvalid => hfirst ⟨hissuer, hvalid⟩

end Selection

section Acceptance

variable {x509 : X509} {chain : List Certificate} {now : Time}
  {revocationLists : List RevocationList}

theorem checkSelectedList_eq_ok {certificate : Certificate} {selected : Option SelectedList} :
    checkSelectedList x509 certificate now selected = .ok () ↔
      ∃ best, selected = some best ∧ best.signer.MaySignCRLs ∧ best.list.CurrentlyValid now ∧
        x509.checkSignatureFrom best.list best.signer = true ∧ ¬ best.list.Revokes certificate := by
  cases selected with
  | none => simp [checkSelectedList]
  | some best =>
    simp only [checkSelectedList, Certificate.MaySignCRLs, ← revocationListValidityError_eq_none,
      ← revokesSerial_iff, Option.some.injEq, exists_eq_left']
    by_cases husage : certificateHasKeyUsageExtension best.signer = true ∧
        best.signer.keyUsage &&& keyUsageCRLSign = 0
    · simp [husage]
    · cases hvalid : revocationListValidityError best.list now with
      | some err => simp [husage]
      | none =>
        simp only [Bool.and_eq_true, beq_iff_eq, husage, if_false, not_false_eq_true, true_and]
        cases x509.checkSignatureFrom best.list best.signer <;> simp

/-- **A depth passes exactly when the first currently valid list of its issuer
clears it.** -/
theorem checkChainDepthAgainstCRL_eq_ok {depth : Fin chain.length} :
    checkChainDepthAgainstCRL x509 chain depth revocationLists now = .ok () ↔
      ∃ revocationList, revocationLists.find? (fun list => Applies chain now depth list)
        = some revocationList ∧ Clears x509 chain depth revocationList := by
  unfold checkChainDepthAgainstCRL Clears
  rw [checkSelectedList_eq_ok]
  cases hsigner : findCRLSignerInChain (issuerChain chain depth) (chain.get depth).rawIssuer with
  | none =>
    rw [foldl_consider_of_no_signer hsigner]
    simp
  | some signer =>
    cases hfind : revocationLists.find? (fun list => Applies chain now depth list) with
    | none =>
      have houtside := foldl_consider_none_of_find (issuerChain chain depth)
        (by simp : ∀ best ∈ (none : Option SelectedList), _) hfind
      simp only [reduceCtorEq, false_and, exists_false, iff_false]
      rintro ⟨best, hbest, -, hvalid, -⟩
      exact houtside best hbest (revocationListValidityError_eq_none.mpr hvalid)
    | some revocationList =>
      have happlies : Applies chain now depth revocationList := by simpa using List.find?_some hfind
      rw [foldl_consider_of_find hsigner (by simp) hfind]
      simp [happlies.2]

theorem checkChainAgainstCRL_eq_ok :
    checkChainAgainstCRL x509 chain revocationLists now = .ok () ↔
      chain ≠ [] ∧
        ∀ depth, checkChainDepthAgainstCRL x509 chain depth revocationLists now = .ok () := by
  have hforM : ∀ depths : List (Fin chain.length),
      forM depths (fun depth => checkChainDepthAgainstCRL x509 chain depth revocationLists now)
        = .ok () ↔
      ∀ depth ∈ depths,
        checkChainDepthAgainstCRL x509 chain depth revocationLists now = .ok () := by
    intro depths
    induction depths with
    | nil => simp [pure, Except.pure]
    | cons depth rest ih =>
      rw [forM_cons, bind_eq_ok, forall_mem_cons]
      simp only [ih]
      exact ⟨fun ⟨_, hdepth, hrest⟩ => ⟨hdepth, hrest⟩, fun ⟨hdepth, hrest⟩ => ⟨_, hdepth, hrest⟩⟩
  unfold checkChainAgainstCRL
  cases chain with
  | nil => simp
  | cons leaf issuers =>
    exact (hforM _).trans (by simp)

end Acceptance

/-! ### Revocation and the order of the lists -/

/-- The list is a most recently issued one among the currently valid lists of
`rawIssuer`. -/
structure NewestValid (revocationLists : List RevocationList) (rawIssuer : Bytes) (now : Time)
    (newest : RevocationList) : Prop where
  mem : newest ∈ revocationLists
  issuer : newest.rawIssuer = rawIssuer
  valid : newest.CurrentlyValid now
  newest : ∀ list ∈ revocationLists, list.rawIssuer = rawIssuer → list.CurrentlyValid now →
    list.thisUpdate ≤ newest.thisUpdate

/-- What acceptance should say about the certificate at `depth`: its issuer has
a currently valid list signed by a certificate of the chain, and the newest
currently valid list of the issuer does not revoke it. -/
structure NotRevoked (x509 : X509) (chain : List Certificate)
    (revocationLists : List RevocationList) (now : Time) (depth : Fin chain.length) : Prop where
  covered : ∃ list ∈ revocationLists, Applies chain now depth list ∧
    ∃ signer ∈ chain, signer.rawSubject = list.rawIssuer ∧
      x509.checkSignatureFrom list signer = true
  newest : ∀ list, NewestValid revocationLists (chain.get depth).rawIssuer now list →
    ¬ list.Revokes (chain.get depth)

/-- In every order of the lists an accepted chain holds no revoked certificate,
and no order is accepted when another one is refused. -/
structure OrderSafe (x509 : X509) (chain : List Certificate)
    (revocationLists : List RevocationList) (now : Time) : Prop where
  notRevoked : ∀ order, order.Perm revocationLists →
    checkChainAgainstCRL x509 chain order now = .ok () →
      ∀ depth, NotRevoked x509 chain order now depth
  stable : ∀ order order', order.Perm revocationLists → order'.Perm revocationLists →
    checkChainAgainstCRL x509 chain order now ≠ .ok () →
      checkChainAgainstCRL x509 chain order' now ≠ .ok ()

/-- All currently valid lists give the same verdict: either each of them clears
every certificate of its issuer, or some issuer has none that clears all its
certificates. -/
def Unanimous (chain : List Certificate)
    (revocationLists : List RevocationList) (now : Time) : Prop :=
  (∀ depth, ∀ list ∈ revocationLists, Applies chain now depth list → Clears x509 chain depth list) ∨
  (∃ depth, ∀ list ∈ revocationLists, Applies chain now depth list →
    ∃ depth', Applies chain now depth' list ∧ ¬ Clears x509 chain depth' list)

section Order

variable {x509 : X509} {chain : List Certificate} {now : Time}
  {revocationLists order : List RevocationList} {list : RevocationList} {depth : Fin chain.length}

theorem find_applies
    (hfind : order.find? (fun list => Applies chain now depth list) = some list) :
    list ∈ order ∧ Applies chain now depth list :=
  ⟨mem_of_find?_eq_some hfind, by simpa using List.find?_some hfind⟩

/-- Two certificates with a common applicable list have the same issuer, so the
same lists apply to them. -/
theorem applies_iff_of_common {depth depth' : Fin chain.length} {common : RevocationList}
    (happlies : Applies chain now depth common) (happlies' : Applies chain now depth' common)
    (list : RevocationList) : Applies chain now depth list ↔ Applies chain now depth' list := by
  unfold Applies
  rw [← happlies.1, ← happlies'.1]

theorem Clears.signed (hclears : Clears x509 chain depth list)
    (happlies : Applies chain now depth list) :
    ∃ signer ∈ chain, signer.rawSubject = list.rawIssuer ∧
      x509.checkSignatureFrom list signer = true := by
  obtain ⟨signer, hsigner, -, hsigned, -⟩ := hclears
  refine ⟨signer, mem_of_mem_drop (mem_of_find?_eq_some hsigner), ?_, hsigned⟩
  rw [happlies.1]
  simpa using List.find?_some hsigner

/-- When every currently valid list clears, a depth passes as soon as it has a
list. -/
theorem check_ok_of_all_clear
    (hclear : ∀ depth, ∀ list ∈ revocationLists,
      Applies chain now depth list → Clears x509 chain depth list)
    (horder : order.Perm revocationLists) (hchain : chain ≠ []) :
    checkChainAgainstCRL x509 chain order now = .ok () ↔
      ∀ depth, ∃ list ∈ revocationLists, Applies chain now depth list := by
  rw [checkChainAgainstCRL_eq_ok]
  simp only [checkChainDepthAgainstCRL_eq_ok, ne_eq, hchain, not_false_eq_true, true_and]
  refine forall_congr' fun depth => ⟨?_, ?_⟩
  · rintro ⟨list, hfind, -⟩
    have hlist := find_applies hfind
    exact ⟨list, horder.mem_iff.mp hlist.1, hlist.2⟩
  · rintro ⟨list, hlist, happlies⟩
    have hsome : (order.find? (fun list => Applies chain now depth list)).isSome := by
      rw [List.find?_isSome]
      exact ⟨list, horder.mem_iff.mpr hlist, by simpa using happlies⟩
    obtain ⟨consulted, hconsulted⟩ := Option.isSome_iff_exists.mp hsome
    have hfound := find_applies hconsulted
    exact ⟨consulted, hconsulted, hclear depth consulted (horder.mem_iff.mp hfound.1) hfound.2⟩

/-- When some issuer has no list that clears all its certificates, no order is
accepted. -/
theorem check_ne_ok_of_no_clear
    (hnone : ∀ list ∈ revocationLists, Applies chain now depth list →
      ∃ depth', Applies chain now depth' list ∧ ¬ Clears x509 chain depth' list)
    (horder : order.Perm revocationLists) :
    checkChainAgainstCRL x509 chain order now ≠ .ok () := by
  intro hok
  have hdepths := (checkChainAgainstCRL_eq_ok.mp hok).2
  obtain ⟨list, hfind, -⟩ := checkChainDepthAgainstCRL_eq_ok.mp (hdepths depth)
  have hlist := find_applies hfind
  obtain ⟨depth', happlies', hclears'⟩ := hnone list (horder.mem_iff.mp hlist.1) hlist.2
  -- the two depths have one issuer, so the same list is consulted for both
  have hsame : (fun list => decide (Applies chain now depth list))
      = fun list => decide (Applies chain now depth' list) :=
    funext fun other => decide_eq_decide.mpr (applies_iff_of_common hlist.2 happlies' other)
  obtain ⟨list', hfind', hclears⟩ := checkChainDepthAgainstCRL_eq_ok.mp (hdepths depth')
  rw [← hsame, hfind] at hfind'
  cases hfind'
  exact hclears' hclears

/-- Putting the lists that clear all their certificates first makes the check
accept, when every issuer has one. -/
theorem exists_order_ok (hchain : chain ≠ [])
    (hsome : ∀ depth, ∃ list ∈ revocationLists, Applies chain now depth list ∧
      ∀ depth', Applies chain now depth' list → Clears x509 chain depth' list) :
    ∃ order, order.Perm revocationLists ∧
      checkChainAgainstCRL x509 chain order now = .ok () := by
  classical
  let good : RevocationList → Bool := fun list =>
    decide (∀ depth, Applies chain now depth list → Clears x509 chain depth list)
  refine ⟨revocationLists.filter good ++ revocationLists.filter (fun list => !good list),
    filter_append_perm good revocationLists, ?_⟩
  rw [checkChainAgainstCRL_eq_ok]
  refine ⟨hchain, fun depth => ?_⟩
  rw [checkChainDepthAgainstCRL_eq_ok]
  obtain ⟨list, hlist, happlies, hgood⟩ := hsome depth
  have hfound : ((revocationLists.filter good).find?
      (fun list => Applies chain now depth list)).isSome := by
    rw [List.find?_isSome]
    exact ⟨list, mem_filter.mpr ⟨hlist, by simpa [good] using hgood⟩, by simpa using happlies⟩
  obtain ⟨consulted, hconsulted⟩ := Option.isSome_iff_exists.mp hfound
  have hconsulted' := find_applies hconsulted
  refine ⟨consulted, by rw [List.find?_append, hconsulted]; rfl, ?_⟩
  have hclears : ∀ depth, Applies chain now depth consulted →
      Clears x509 chain depth consulted := by
    simpa [good] using (mem_filter.mp hconsulted'.1).2
  exact hclears depth hconsulted'.2

theorem exists_order_refused (hlist : list ∈ revocationLists)
    (happlies : Applies chain now depth list) (hclears : ¬ Clears x509 chain depth list) :
    ∃ order, order.Perm revocationLists ∧
      checkChainAgainstCRL x509 chain order now ≠ .ok () := by
  refine ⟨list :: revocationLists.erase list, (perm_cons_erase hlist).symm, ?_⟩
  intro hok
  obtain ⟨consulted, hfind, hconsulted⟩ :=
    checkChainDepthAgainstCRL_eq_ok.mp ((checkChainAgainstCRL_eq_ok.mp hok).2 depth)
  rw [List.find?_cons_of_pos (by simpa using happlies)] at hfind
  cases hfind
  exact hclears hconsulted

theorem Unanimous.orderSafe (hunanimous : Unanimous x509 chain revocationLists now) :
    OrderSafe x509 chain revocationLists now := by
  rcases hunanimous with hclear | ⟨depth, hnone⟩
  · refine ⟨?_, ?_⟩
    · intro order horder hok depth
      obtain ⟨list, hfind, hclears⟩ :=
        checkChainDepthAgainstCRL_eq_ok.mp ((checkChainAgainstCRL_eq_ok.mp hok).2 depth)
      have hlist := find_applies hfind
      refine ⟨⟨list, hlist.1, hlist.2, hclears.signed hlist.2⟩, ?_⟩
      intro newest hnewest
      obtain ⟨-, -, -, -, hnot⟩ := hclear depth newest (horder.mem_iff.mp hnewest.mem)
        ⟨hnewest.issuer, hnewest.valid⟩
      exact hnot
    · intro order order' horder horder' hrefused hok
      have hchain := (checkChainAgainstCRL_eq_ok.mp hok).1
      rw [check_ok_of_all_clear hclear horder' hchain] at hok
      exact hrefused ((check_ok_of_all_clear hclear horder hchain).mpr hok)
  · exact ⟨fun order horder hok => absurd hok (check_ne_ok_of_no_clear hnone horder),
      fun order order' _ horder' _ => check_ne_ok_of_no_clear hnone horder'⟩

theorem OrderSafe.unanimous (hsafe : OrderSafe x509 chain revocationLists now) :
    Unanimous x509 chain revocationLists now := by
  by_contra hsplit
  simp only [Unanimous, not_or, not_forall, not_exists, not_and, not_not] at hsplit
  obtain ⟨⟨depth, list, hlist, happlies, hclears⟩, hsome⟩ := hsplit
  have hchain : chain ≠ [] := by
    rintro rfl
    exact depth.elim0
  obtain ⟨order, horder, hrefused⟩ := exists_order_refused hlist happlies hclears
  obtain ⟨order', horder', hok⟩ := exists_order_ok hchain (fun depth' => by
    obtain ⟨list', hlist', happlies', hgood⟩ := hsome depth'
    exact ⟨list', hlist', happlies', hgood⟩)
  exact hsafe.stable order order' horder horder' hrefused hok

end Order

/-- **The order of the lists decides exactly when they disagree.**  Acceptance
means that no certificate of the chain is revoked by the newest currently valid
list of its issuer, and does not depend on the order of the lists, if and only
if all currently valid lists give the same verdict. -/
theorem crl_order_safe_iff (chain : List Certificate)
    (revocationLists : List RevocationList) (now : Time) :
    OrderSafe x509 chain revocationLists now ↔ Unanimous x509 chain revocationLists now :=
  ⟨OrderSafe.unanimous, Unanimous.orderSafe⟩

/-- A chain an unanimous `--crl-verify` file lets through holds no revoked
certificate. -/
theorem verifyAgainstCRL_notRevoked {x509 : X509} {chain : List Certificate} {crlPath : String}
    {now : Time} {revocationLists : List RevocationList} (hpath : crlPath ≠ "")
    (hload : loadRevocationLists x509 crlPath = .ok revocationLists)
    (hunanimous : Unanimous x509 chain revocationLists now)
    (hok : verifyAgainstCRL x509 chain crlPath now = .ok ()) (depth : Fin chain.length) :
    NotRevoked x509 chain revocationLists now depth := by
  simp only [verifyAgainstCRL, hpath, if_false, hload] at hok
  exact hunanimous.orderSafe.notRevoked revocationLists (List.Perm.refl _) hok depth

/-! ### A file with two lists of one CA -/

section TwoLists

/-- Signatures all verify; nothing is parsed. -/
def trustingX509 : X509 where
  parseRevocationList _ := .error "x509: malformed crl"
  pemDecode _ := none
  pemDecode_rest _ _ _ h := by cases h
  checkSignatureFrom _ _ := true
  readFile _ := .ok []

def exampleCA : Certificate :=
  { rawSubject := [0xCA], rawIssuer := [0xCA], serialNumber := some 1
    extensions := [keyUsageExtensionOID], keyUsage := keyUsageCRLSign }

def exampleLeaf : Certificate :=
  { rawSubject := [0x01], rawIssuer := [0xCA], serialNumber := some 7, extensions := []
    keyUsage := 0 }

/-- Issued before the leaf was revoked, and still inside its window. -/
def earlierList : RevocationList :=
  { raw := [1], rawIssuer := [0xCA], thisUpdate := 10, nextUpdate := some 100
    revokedCertificateEntries := [] }

/-- Issued when the leaf was revoked. -/
def laterList : RevocationList :=
  { raw := [2], rawIssuer := [0xCA], thisUpdate := 20, nextUpdate := some 110
    revokedCertificateEntries := [some 7] }

/-- With the earlier list first the revoked leaf is accepted; with the later one
first it is refused as revoked. -/
theorem revoked_leaf_accepted :
    checkChainAgainstCRL trustingX509 [exampleLeaf, exampleCA] [earlierList, laterList] 30
        = .ok () ∧
      NewestValid [earlierList, laterList] exampleLeaf.rawIssuer 30 laterList ∧
      laterList.Revokes exampleLeaf ∧
      checkChainAgainstCRL trustingX509 [exampleLeaf, exampleCA] [laterList, earlierList] 30
        = .error .revoked := by
  refine ⟨by rfl, ⟨by decide, by decide, by decide, by decide⟩, ⟨7, by decide, by decide⟩, by rfl⟩

end TwoLists

end SingOpenVPN
