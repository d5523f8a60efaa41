import CrumbleCracker.Backend.Ops
import CrumbleCracker.Wire.Schema

/-!
# Instance sources over IPC (`client.py`, `Snapshot.as_source`, `Instance.__init__`)

Under the IPC backend an `InstanceSource` is not a handle of the helper.  `OCIClient.pull`,
`load_tar` and `load_dir` store the metadata the helper needs to build the source itself
(`source_type`, `source_path`, `image_ref`, `cache_dir`), and `Instance.__init__` sends that
metadata, with the instance options, in `instance_new`.  `Snapshot.as_source` instead asks
the helper for a source handle and returns `InstanceSource(source_handle)`, whose metadata
keeps its defaults.

## Results

* `instanceRequest_determines`: the `MSG_INSTANCE_NEW` payload determines the source
  metadata: two sources whose requests have the same payload have the same `source_type`,
  `source_path`, `image_ref` and `cache_dir`.
* `snapshot_source_handle_dropped`: the payload never holds the source handle.  The source of
  every open snapshot, whatever handle the helper returned for it, gives the payload of
  `load_tar("")` on a client without a cache directory, and `pull` gives one payload whatever
  its `PullOptions`.
-/

namespace CrumbleCracker

/-! ## 1. Sources -/

/-- `InstanceSource`: its handle, `_closed`, and the metadata the IPC backend sends. -/
structure InstanceSource where
  handle : Option Int
  closed : Bool
  ipcSourceType : Int
  ipcSourcePath : String
  ipcImageRef : String
  ipcCacheDir : String
  deriving DecidableEq, Repr

/-- `InstanceSource(handle, ipc_source_type=…, ipc_source_path=…, ipc_image_ref=…,
    ipc_cache_dir=…)`; the keywords default to `0`, `""`, `""` and `""`. -/
def InstanceSource.new (handle : Option Int) (ipcSourceType : Int)
    (ipcSourcePath ipcImageRef ipcCacheDir : String) : InstanceSource :=
  ⟨handle, false, ipcSourceType, ipcSourcePath, ipcImageRef, ipcCacheDir⟩

/-- `PullPolicy`. -/
inductive PullPolicy
  | ifNotPresent
  | always
  | never
  deriving DecidableEq, Repr

/-- `PullOptions`: platform, credentials and policy of a pull. -/
structure PullOptions where
  platformOs : Option String
  platformArch : Option String
  username : Option String
  password : Option String
  policy : PullPolicy
  deriving DecidableEq, Repr

/-- An `OCIClient` under the IPC backend: `_cache_dir_str` and `_closed`; its handle is
    `None`. -/
structure OCIClient where
  cacheDirStr : String
  closed : Bool
  deriving DecidableEq, Repr

namespace OCIClient

/-- `OCIClient(cache_dir)`: `self._cache_dir_str = cache_dir or ""`. -/
def new (cacheDir : Option String) : OCIClient := ⟨cacheDir.getD "", false⟩

/-- The `InstanceSource` of the IPC branch of `pull`, `load_tar` and `load_dir`: no handle,
    the metadata, and `ipc_cache_dir=self._cache_dir_str`. -/
def ipcSource (c : OCIClient) (sourceType : Int) (sourcePath imageRef : String) :
    InstanceSource :=
  .new none sourceType sourcePath imageRef c.cacheDirStr

/-- `pull(image_ref, options)`: `ipc_source_type=2`, `ipc_image_ref=image_ref`. -/
def pull (c : OCIClient) (imageRef : String) (_options : Option PullOptions) : InstanceSource :=
  c.ipcSource 2 "" imageRef

/-- `load_tar(tar_path, options)`: `ipc_source_type=0`, `ipc_source_path=tar_path`. -/
def loadTar (c : OCIClient) (tarPath : String) (_options : Option PullOptions) :
    InstanceSource :=
  c.ipcSource 0 tarPath ""

/-- `load_dir(dir_path, options)`: `ipc_source_type=1`, `ipc_source_path=dir_path`. -/
def loadDir (c : OCIClient) (dirPath : String) (_options : Option PullOptions) :
    InstanceSource :=
  c.ipcSource 1 dirPath ""

end OCIClient

/-- A `Snapshot`: its handle and `_closed`. -/
structure Snapshot where
  handle : Option Int
  closed : Bool
  deriving DecidableEq, Repr

/-- `CCError("Snapshot is closed", code=4)`. -/
def snapshotClosed : PyExc := .cc (CCError.plain "Snapshot is closed" 4)

/-- The IPC branch of `Snapshot.as_source()`, where `asSourceResult` is what
    `backend.snapshot_as_source(self._handle)` returned or raised:
    `InstanceSource(source_handle)`. -/
def Snapshot.asSource (s : Snapshot) (asSourceResult : Except PyExc Int) :
    Except PyExc InstanceSource :=
  if s.closed then .error snapshotClosed
  else do
    let sourceHandle ← asSourceResult
    return .new (some sourceHandle) 0 "" "" ""

/-! ## 2. The instance-creation request -/

/-- `MountConfig`. -/
structure MountConfig where
  tag : String
  hostPath : Option String
  writable : Bool
  deriving Repr

/-- `InstanceOptions`; `timeout_seconds` is a Python float. -/
structure InstanceOptions where
  memoryMb : Int
  cpus : Int
  timeoutSeconds : Float
  user : Option String
  enableDmesg : Bool
  mounts : Option (List MountConfig)

/-- The defaults of the `InstanceOptions` dataclass. -/
def InstanceOptions.default : InstanceOptions := ⟨256, 1, 0, none, false, none⟩

/-- The `mounts` of `Instance.__init__`: `[(m.tag, m.host_path or "", m.writable) for m in
    options.mounts]` when `options and options.mounts`, else `[]`. -/
def ipcMounts : Option InstanceOptions → List (String × String × Bool)
  | some o => (o.mounts.getD []).map fun m => (m.tag, m.hostPath.getD "", m.writable)
  | none => []

/-- The `backend.instance_new(…)` call of `Instance.__init__` under IPC: the source's
    metadata, and each option or its default when `options` is `None`. -/
def instanceInit (nanos : Float → Int) (source : InstanceSource)
    (options : Option InstanceOptions) : Op Unit :=
  instanceNew nanos source.ipcSourceType source.ipcSourcePath source.ipcImageRef
    source.ipcCacheDir (options.elim 256 fun o => o.memoryMb) (options.elim 1 fun o => o.cpus)
    (options.elim 0 fun o => o.timeoutSeconds) (options.elim "" fun o => o.user.getD "")
    (options.elim false fun o => o.enableDmesg) (ipcMounts options)

/-- The `MSG_INSTANCE_NEW` payload `Instance.__init__` sends, or what its encoding raises. -/
def instanceRequest (nanos : Float → Int) (source : InstanceSource)
    (options : Option InstanceOptions) : Except PyExc Bytes :=
  Encoder.getBytes <$> (instanceInit nanos source options).encode Encoder.new

/-- The fields `instance_new` writes before `instance_options`. -/
def instanceSourceSchema : List FieldKind := [.int .B, .string, .string, .string]

/-- The values of those fields. -/
def sourceValues (sourceType : Int) (sourcePath imageRef cacheDir : String) : List Value :=
  [.int sourceType, .str sourcePath, .str imageRef, .str cacheDir]

theorem instanceNew_encode (nanos : Float → Int) (sourceType : Int)
    (sourcePath imageRef cacheDir : String) (memoryMb cpus : Int) (timeoutSeconds : Float)
    (user : String) (enableDmesg : Bool) (mounts : List (String × String × Bool)) :
    (instanceNew nanos sourceType sourcePath imageRef cacheDir memoryMb cpus timeoutSeconds user
        enableDmesg mounts).encode Encoder.new =
      encodeFields Encoder.new instanceSourceSchema
          (sourceValues sourceType sourcePath imageRef cacheDir) >>= fun e =>
        e.instanceOptions nanos memoryMb cpus timeoutSeconds user enableDmesg mounts := by
  simp only [instanceNew, instanceSourceSchema, sourceValues, encodeFields, encodeField,
    Encoder.uint8, bind_assoc, bind_pure]

/-- A payload starts with the encoding of the source's metadata. -/
theorem instanceRequest_eq_ok {nanos : Float → Int} {src : InstanceSource}
    {options : Option InstanceOptions} {b : Bytes} (h : instanceRequest nanos src options = .ok b) :
    List.Forall₂ Fits instanceSourceSchema
        (sourceValues src.ipcSourceType src.ipcSourcePath src.ipcImageRef src.ipcCacheDir) ∧
      ∃ rest, b = fieldsBytes instanceSourceSchema
        (sourceValues src.ipcSourceType src.ipcSourcePath src.ipcImageRef src.ipcCacheDir) ++ rest := by
  unfold instanceRequest instanceInit at h
  rw [instanceNew_encode] at h
  rcases h₁ : encodeFields Encoder.new instanceSourceSchema
    (sourceValues src.ipcSourceType src.ipcSourcePath src.ipcImageRef src.ipcCacheDir) with
    _ | e₁ <;> rw [h₁] at h
  · cases h
  rw [except_ok_bind, instanceOptions_eq] at h
  rcases h₂ : encodeFields e₁ _ _ with _ | e₂ <;> rw [h₂] at h
  · cases h
  cases h
  rw [getBytes_of_encodeFields h₂, getBytes_of_encodeFields h₁, Encoder.getBytes_new,
    List.nil_append]
  exact ⟨fits_of_encodeFields h₁, _, rfl⟩

/-- **What reaches the helper.** Two sources whose `MSG_INSTANCE_NEW` payloads are the same
    bytes have the same `source_type`, `source_path`, `image_ref` and `cache_dir`. -/
theorem instanceRequest_determines {nanos : Float → Int} {src src' : InstanceSource}
    {options options' : Option InstanceOptions} {b : Bytes}
    (h : instanceRequest nanos src options = .ok b)
    (h' : instanceRequest nanos src' options' = .ok b) :
    src.ipcSourceType = src'.ipcSourceType ∧ src.ipcSourcePath = src'.ipcSourcePath ∧
      src.ipcImageRef = src'.ipcImageRef ∧ src.ipcCacheDir = src'.ipcCacheDir := by
  obtain ⟨hf, r, rfl⟩ := instanceRequest_eq_ok h
  obtain ⟨hf', r', hb⟩ := instanceRequest_eq_ok h'
  simpa [sourceValues] using eq_of_fieldsBytes_append hf hf' hb

/-- **The source handle is dropped.** The source `as_source` returns for an open snapshot,
    whatever handle the helper gave it, yields the request of `load_tar("")` on a client with
    no cache directory; and `pull` yields one request whatever its `PullOptions`. -/
theorem snapshot_source_handle_dropped (nanos : Float → Int) (options : Option InstanceOptions)
    (handle : Option Int) (sourceHandle : Int) (c : OCIClient) (imageRef : String)
    (o o' : Option PullOptions) :
    ((Snapshot.mk handle false).asSource (.ok sourceHandle)).map
        (instanceRequest nanos · options) =
      .ok (instanceRequest nanos ((OCIClient.new none).loadTar "" none) options) ∧
    instanceRequest nanos (c.pull imageRef o) options =
      instanceRequest nanos (c.pull imageRef o') options :=
  ⟨rfl, rfl⟩

end CrumbleCracker
