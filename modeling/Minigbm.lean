import Minigbm.Basic
import Minigbm.Format
import Minigbm.Combination
import Minigbm.I915.Layout
import Minigbm.I915.LayoutLaws
import Minigbm.I915.LayoutNat
import Minigbm.I915.Map
import Minigbm.I915.Gem
import Minigbm.I915.Formats
import Minigbm.I915.Combinations
import Minigbm.I915.Choice
import Minigbm.Gralloc.Handle
import Minigbm.Gralloc.Driver
import Minigbm.Gralloc.Invariant
import Minigbm.Gralloc.Heap
import Minigbm.Gralloc.RoundTrip
import Minigbm.Gralloc.BackingStore
import Minigbm.Gralloc.Order
import Minigbm.Gralloc.Resources
import Minigbm.Gralloc.Support
import Minigbm.Gralloc.Init
