import EbsCloud.Interaction
import EbsCloud.Ec2
import EbsCloud.Cloud
import EbsCloud.Wait
import EbsCloud.Lookup
import EbsCloud.Snapshot
import EbsCloud.Disk
import EbsCloud.Attach
import EbsCloud.Resize
import EbsCloud.ConcurrentResize
import EbsCloud.Safety
import EbsCloud.Reporting
import EbsCloud.Translation
import EbsCloud.Provider
import EbsCloud.VolumeRefinement
import EbsCloud.SnapshotStore
import EbsCloud.SnapshotRefinement
