import ComputeSdk.Model.Cache.Found
import ComputeSdk.Verification.Cache.Encoding
import ComputeSdk.Verification.Cache.Settings

/-! # User metadata

The size of the metadata is not known before they are read. They are asked for with a buffer,
and once more with one of the size that the host reports if the first is too small. -/

namespace ComputeSdk

open Shared Guest ComputeSdk.Core

/-! ## Hosts with metadata -/

/-- The answer for the metadata `bytes`: all of them or none, and always their number. -/
def UserMetadataAnswer.reply (bytes : List UInt8) (maxLen : ℕ) : UserMetadataAnswer maxLen :=
  if h : bytes.length ≤ maxLen then ⟨bytes, some bytes.length, .ok (), h⟩
  else ⟨[], some bytes.length, .error .bufferLen, Nat.zero_le maxLen⟩

/-- A host with states of `σ`, where `metadata` are those of the item behind a handle. They
are not changed by being read. -/
structure MetadataHost (σ : Type) where
  handle : σ → (c : HostCall) → c.Answer × σ
  metadata : σ → HandleKind → ℕ → List UInt8
  answers : ∀ s h maxLen, (handle s (.cacheGetUserMetadata h maxLen)).1 =
    .reply (metadata s .cache h) maxLen
  answersReplace : ∀ s h maxLen, (handle s (.cacheReplaceGetUserMetadata h maxLen)).1 =
    .reply (metadata s .replace h) maxLen
  keeps : ∀ s h maxLen,
    metadata (handle s (.cacheGetUserMetadata h maxLen)).2 .cache h = metadata s .cache h
  keepsReplace : ∀ s h maxLen,
    metadata (handle s (.cacheReplaceGetUserMetadata h maxLen)).2 .replace h =
      metadata s .replace h

namespace MetadataHost

variable {σ : Type} (host : MetadataHost σ)

/-- The metadata of a found item. -/
def foundMetadata (s : σ) : Found → List UInt8
  | .cache handle => host.metadata s .cache handle.val.handle
  | .replace handle => host.metadata s .replace handle.val.handle

/-- Reading the metadata of an item returns `bytes`, after at most two calls. -/
structure Returns (found : Found) (H : RefHeap HandleObject) (s : σ) (bytes : List UInt8) :
    Prop where
  value : ∃ t, (found.userMetadata.run H).run host.handle s = (.ok (bytes, H), t)
  calls : ((found.userMetadata.run H).trace host.handle s).length ≤ 2

/-! ## Reading -/

/-- One call leaves `result` in the buffer and the variable, and the metadata as they are. -/
structure Gets (found : Found) (H : RefHeap HandleObject) (s : σ) (buffer : List UInt8)
    (nwritten : ℕ) (result : Except Status Unit × List UInt8 × ℕ) (t : σ) : Prop where
  ends : ((found.getMetadata buffer nwritten).run H).Ends host.handle s (result, H) 1 t
  keeps : host.foundMetadata t found = host.foundMetadata s found

variable (found : Found) (H : RefHeap HandleObject) {s : σ} {buffer : List UInt8} (nwritten : ℕ)

theorem exists_gets (s : σ) (buffer : List UInt8) :
    ∃ t, host.Gets found H s buffer nwritten
      ((UserMetadataAnswer.reply (host.foundMetadata s found) buffer.length).leave buffer
        nwritten) t := by
  cases found with
  | cache handle =>
      refine ⟨_, ⟨?_, rfl⟩, host.keeps s handle.val.handle buffer.length⟩
      rw [foundMetadata, ← host.answers]
      rfl
  | replace handle =>
      refine ⟨_, ⟨?_, rfl⟩, host.keepsReplace s handle.val.handle buffer.length⟩
      rw [foundMetadata, ← host.answersReplace]
      rfl

/-- A buffer that is large enough holds the metadata. -/
theorem exists_gets_of_le (h : (host.foundMetadata s found).length ≤ buffer.length) :
    ∃ t, host.Gets found H s buffer nwritten
      (.ok (), Vec.overwrite (host.foundMetadata s found) buffer,
        (host.foundMetadata s found).length) t := by
  have hgets := host.exists_gets found H nwritten s buffer
  rwa [UserMetadataAnswer.reply, dif_pos h] at hgets

/-- Of one that is too small the host reports the size that is needed. -/
theorem exists_gets_of_lt (h : buffer.length < (host.foundMetadata s found).length) :
    ∃ t, host.Gets found H s buffer nwritten
      (.error .bufferLen, buffer, (host.foundMetadata s found).length) t := by
  have hgets := host.exists_gets found H nwritten s buffer
  rwa [UserMetadataAnswer.reply, dif_neg (Nat.not_le.mpr h)] at hgets

/-- What is left in a buffer, cut at the number of bytes that were written, is the metadata. -/
theorem ends_resize (bytes buffer : List UInt8) (s : σ) :
    ((pure (Vec.resize bytes.length 0 (Vec.overwrite bytes buffer)) : Guest _).run H).Ends
      host.handle s (bytes, H) 0 s := by
  rw [Vec.resize_overwrite]
  exact Prog.ends_ret host.handle (bytes, H) s

/-- One call is enough up to the size of the first buffer. Beyond it a second one is made,
with a buffer of the size that the first reported. -/
theorem exists_ends_userMetadata (s : σ) :
    ∃ n t, n ≤ 2 ∧ (found.userMetadata.run H).Ends host.handle s
      (host.foundMetadata s found, H) n t := by
  have hfirst : (Vec.resize (16 * 1024) 0 [] : List UInt8).length = 16 * 1024 :=
    Vec.length_resize _ _ _
  by_cases hle : (host.foundMetadata s found).length ≤ 16 * 1024
  · obtain ⟨t, hgets⟩ := host.exists_gets_of_le found H 0 (hle.trans_eq hfirst.symm)
    refine ⟨1 + 0, t, Nat.le_succ 1, ?_⟩
    rw [Found.userMetadata, run_bind]
    exact hgets.ends.bind (host.ends_resize H _ _ t)
  · obtain ⟨t, hgets⟩ := host.exists_gets_of_lt found H 0
      (hfirst.trans_lt (Nat.not_le.mp hle))
    have hsecond : (host.foundMetadata t found).length ≤
        (Vec.resize (host.foundMetadata s found).length 0
          (Vec.resize (16 * 1024) 0 [] : List UInt8)).length := by
      rw [Vec.length_resize, hgets.keeps]
    obtain ⟨u, hgets'⟩ := host.exists_gets_of_le found H (host.foundMetadata s found).length
      hsecond
    rw [hgets.keeps] at hgets'
    refine ⟨1 + (1 + 0), u, Nat.le_refl 2, ?_⟩
    rw [Found.userMetadata, run_bind]
    exact hgets.ends.bind (hgets'.ends.bind (host.ends_resize H _ _ u))

theorem returns_foundMetadata (s : σ) :
    host.Returns found H s (host.foundMetadata s found) := by
  obtain ⟨n, t, hn, hends⟩ := host.exists_ends_userMetadata found H s
  exact ⟨⟨t, hends.value⟩, hends.calls.trans_le hn⟩

end MetadataHost

/-! ## Reading back -/

/-- The metadata that the host is given with a write, if it can read them. -/
def givenMetadata (p : CacheWriteOptions × UInt32) : Option (List UInt8) :=
  (WriteOptions.decode p).map fun options => options.userMetadata.getD []

theorem used_userMetadata {st : WriteStart} {past rest : List WriteSetting} {bytes : List UInt8}
    {b : WriteBuilder} (hrest : ∀ c ∈ rest, c.field ≠ .userMetadata)
    (hrun : run WriteBuilder.set st.builder (past ++ .userMetadata bytes :: rest) = .ok b) :
    b.used.userMetadata = some bytes := by
  have hlast := get_used hrun .userMetadata
  have hnone : rest.filterMap (WriteSetting.writes .userMetadata) = [] :=
    List.filterMap_eq_nil_iff.mpr fun c hc => WriteSetting.writes_of_ne (hrest c hc)
  rw [lastWrite_eq_getLast?, List.filterMap_append, List.filterMap_cons, hnone] at hlast
  exact hlast.trans (by rw [List.getLast?_append]; rfl)

theorem givenMetadata_used {st : WriteStart} {past rest : List WriteSetting} {bytes : List UInt8}
    {b : WriteBuilder} (hrest : ∀ c ∈ rest, c.field ≠ .userMetadata)
    (hrun : run WriteBuilder.set st.builder (past ++ .userMetadata bytes :: rest) = .ok b) :
    givenMetadata b.used.asAbi = some bytes := by
  rw [givenMetadata, WriteOptions.decode_asAbi, Option.map_some, used_userMetadata hrest hrun]
  rfl

/-- The metadata of every item are returned as they are. Of an item that a builder wrote they
are those that it was given last, which every execution of it passes to the host. -/
theorem userMetadata_exact {σ : Type} (host : MetadataHost σ) (found : Found)
    (H : RefHeap HandleObject) (s : σ) :
    host.Returns found H s (host.foundMetadata s found) ∧
      ∀ (st : WriteStart) (past rest : List WriteSetting) (bytes : List UInt8) (b : WriteBuilder),
        (∀ c ∈ rest, c.field ≠ .userMetadata) →
        run WriteBuilder.set st.builder (past ++ .userMetadata bytes :: rest) = .ok b →
        givenMetadata b.used.asAbi = some bytes ∧
          ∀ x ∈ b.executions, Asks b.used.asAbi x ∧ Passes b.used.asAbi x ∧
            (givenMetadata b.used.asAbi = some (host.foundMetadata s found) →
              host.Returns found H s bytes) := by
  have hreturns := host.returns_foundMetadata found H s
  constructor
  · exact hreturns
  · intro st past rest bytes b hrest hrun
    have hgiven := givenMetadata_used hrest hrun
    have hback : givenMetadata b.used.asAbi = some (host.foundMetadata s found) →
        host.Returns found H s bytes := by
      intro hitem
      rw [Option.some.inj (hgiven.symm.trans hitem)]
      exact hreturns
    exact ⟨hgiven, fun x hx => ⟨b.asks_executions x hx, b.passes_executions x hx, hback⟩⟩

/-- A host with one item. -/
def oneItem (bytes : List UInt8) : MetadataHost Unit where
  handle _ c :=
    match c with
    | .cacheGetUserMetadata _ maxLen => (.reply bytes maxLen, ())
    | .cacheReplaceGetUserMetadata _ maxLen => (.reply bytes maxLen, ())
    | c => (c.succeed, ())
  metadata _ _ _ := bytes
  answers _ _ _ := rfl
  answersReplace _ _ _ := rfl
  keeps _ _ _ := rfl
  keepsReplace _ _ _ := rfl

theorem userMetadata_exact_four :
    (oneItem [222, 173, 190, 239]).Returns (.cache ⟨0, ⟨.cache, 7⟩⟩) .empty ()
      [222, 173, 190, 239] :=
  (((userMetadata_exact (oneItem [222, 173, 190, 239]) (.cache ⟨0, ⟨.cache, 7⟩⟩) .empty ()).2
    (.insert [107] 1000000000) [.knownLength 17] [.sensitiveData true] [222, 173, 190, 239] _
    (by decide) rfl).2 _ (List.mem_singleton_self _)).2.2 (by decide)

end ComputeSdk
