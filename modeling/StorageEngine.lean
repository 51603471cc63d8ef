import StorageEngine.Main
import StorageEngine.Limits.Document
import StorageEngine.Proofs.ExactlyOnce
import StorageEngine.Proofs.Teardown
import StorageEngine.Proofs.Lifecycle
import StorageEngine.Proofs.Entitlement
import StorageEngine.Proofs.Interleaving
import StorageEngine.Proofs.Retry
import StorageEngine.Proofs.ByteMachine
import StorageEngine.Proofs.PagedMemory
import StorageEngine.Proofs.FlatFile
import StorageEngine.Proofs.PushBack
import StorageEngine.Proofs.CompletionOrder
import StorageEngine.Proofs.Waiting
import StorageEngine.Proofs.Promises
import StorageEngine.Proofs.FlatArena
import StorageEngine.Proofs.LifecycleEvents
import StorageEngine.Proofs.Lifetimes
import StorageEngine.Proofs.ListenerTable
import StorageEngine.Proofs.Untouched
import StorageEngine.Proofs.Reopening
import StorageEngine.Proofs.PagedLength
import StorageEngine.Proofs.Tiling
import StorageEngine.Proofs.Budget
