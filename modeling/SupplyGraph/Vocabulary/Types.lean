import SupplyGraph.Vocabulary.Label

/-!
The four closed vocabularies of a template document: types of entities, types of the commodities
they trade, the relationships of buyers to providers, and the kinds of templates.
-/

namespace SupplyGraph

/-- What a node of the graph stands for. -/
inductive EntityType where
  | application
  | applicationComponent
  | applicationServer
  | businessApplication
  | businessTransaction
  | businessUser
  | container
  | containerPod
  | containerSpec
  | database
  | databaseServer
  | datacenter
  | desktopPool
  | diskArray
  | ip
  | nameSpace
  | network
  | physicalMachine
  | service
  | storage
  | virtualApplication
  | virtualDatacenter
  | virtualMachine
  | workloadController
deriving DecidableEq, Repr, Inhabited

instance : Labelled EntityType where
  all :=
    [.application, .applicationComponent, .applicationServer, .businessApplication,
      .businessTransaction, .businessUser, .container, .containerPod, .containerSpec,
      .database, .databaseServer, .datacenter, .desktopPool, .diskArray, .ip, .nameSpace,
      .network, .physicalMachine, .service, .storage, .virtualApplication, .virtualDatacenter,
      .virtualMachine, .workloadController]
  label
    | .application => "APPLICATION"
    | .applicationComponent => "APPLICATION_COMPONENT"
    | .applicationServer => "APPLICATION_SERVER"
    | .businessApplication => "BUSINESS_APPLICATION"
    | .businessTransaction => "BUSINESS_TRANSACTION"
    | .businessUser => "BUSINESS_USER"
    | .container => "CONTAINER"
    | .containerPod => "CONTAINER_POD"
    | .containerSpec => "CONTAINER_SPEC"
    | .database => "DATABASE"
    | .databaseServer => "DATABASE_SERVER"
    | .datacenter => "DATACENTER"
    | .desktopPool => "DESKTOP_POOL"
    | .diskArray => "DISK_ARRAY"
    | .ip => "IP"
    | .nameSpace => "NAMESPACE"
    | .network => "NETWORK"
    | .physicalMachine => "PHYSICAL_MACHINE"
    | .service => "SERVICE"
    | .storage => "STORAGE"
    | .virtualApplication => "VIRTUAL_APPLICATION"
    | .virtualDatacenter => "VIRTUAL_DATACENTER"
    | .virtualMachine => "VIRTUAL_MACHINE"
    | .workloadController => "WORKLOAD_CONTROLLER"

/-- The values stand in the order of their labels. -/
instance : Key EntityType :=
  Key.ofRank EntityType.ctorIdx (fun left right h => by
    rw [← EntityType.ofNat_ctorIdx left, h, EntityType.ofNat_ctorIdx])

/-- What entities sell to and buy from each other. -/
inductive CommodityType where
  | application
  | ballooning
  | collectionTime
  | connection
  | cpu
  | cpuAllocation
  | dbCacheHitRate
  | dbMem
  | heap
  | ioThroughput
  | kpi
  | mem
  | memAllocation
  | netThroughput
  | remainingGcCapacity
  | responseTime
  | storageAccess
  | storageAmount
  | swapping
  | threads
  | transaction
  | transactionLog
  | vcpu
  | vcpuRequest
  | vmem
  | vmemRequest
  | vstorage
deriving DecidableEq, Repr, Inhabited

instance : Labelled CommodityType where
  all :=
    [.application, .ballooning, .collectionTime, .connection, .cpu, .cpuAllocation,
      .dbCacheHitRate, .dbMem, .heap, .ioThroughput, .kpi, .mem, .memAllocation,
      .netThroughput, .remainingGcCapacity, .responseTime, .storageAccess, .storageAmount,
      .swapping, .threads, .transaction, .transactionLog, .vcpu, .vcpuRequest, .vmem,
      .vmemRequest, .vstorage]
  label
    | .application => "APPLICATION"
    | .ballooning => "BALLOONING"
    | .collectionTime => "COLLECTION_TIME"
    | .connection => "CONNECTION"
    | .cpu => "CPU"
    | .cpuAllocation => "CPU_ALLOCATION"
    | .dbCacheHitRate => "DB_CACHE_HIT_RATE"
    | .dbMem => "DB_MEM"
    | .heap => "HEAP"
    | .ioThroughput => "IO_THROUGHPUT"
    | .kpi => "KPI"
    | .mem => "MEM"
    | .memAllocation => "MEM_ALLOCATION"
    | .netThroughput => "NET_THROUGHPUT"
    | .remainingGcCapacity => "REMAINING_GC_CAPACITY"
    | .responseTime => "RESPONSE_TIME"
    | .storageAccess => "STORAGE_ACCESS"
    | .storageAmount => "STORAGE_AMOUNT"
    | .swapping => "SWAPPING"
    | .threads => "THREADS"
    | .transaction => "TRANSACTION"
    | .transactionLog => "TRANSACTION_LOG"
    | .vcpu => "VCPU"
    | .vcpuRequest => "VCPU_REQUEST"
    | .vmem => "VMEM"
    | .vmemRequest => "VMEM_REQUEST"
    | .vstorage => "VSTORAGE"

/-- The values stand in the order of their labels. -/
instance : Key CommodityType :=
  Key.ofRank CommodityType.ctorIdx (fun left right h => by
    rw [← CommodityType.ofNat_ctorIdx left, h, CommodityType.ofNat_ctorIdx])

/-- How a buyer stands to the provider it buys from. -/
inductive Relationship where
  | hosting
  | layeredOver
deriving DecidableEq, Repr, Inhabited

instance : Labelled Relationship where
  all :=
    [.hosting, .layeredOver]
  label
    | .hosting => "HOSTING"
    | .layeredOver => "LAYERED_OVER"

/-- The values stand in the order of their labels. -/
instance : Key Relationship :=
  Key.ofRank Relationship.ctorIdx (fun left right h => by
    rw [← Relationship.ofNat_ctorIdx left, h, Relationship.ofNat_ctorIdx])

/-- Only a hosting provider passes its properties on to what it hosts. -/
def Relationship.isHosting (relationship : Relationship) : Bool := relationship = .hosting

/-- Whether an entry starts a template or adds to one. -/
inductive TemplateKind where
  | base
  | extension
deriving DecidableEq, Repr, Inhabited

instance : Labelled TemplateKind where
  all :=
    [.base, .extension]
  label
    | .base => "BASE"
    | .extension => "EXTENSION"

/-- The values stand in the order of their labels. -/
instance : Key TemplateKind :=
  Key.ofRank TemplateKind.ctorIdx (fun left right h => by
    rw [← TemplateKind.ofNat_ctorIdx left, h, TemplateKind.ofNat_ctorIdx])

end SupplyGraph
