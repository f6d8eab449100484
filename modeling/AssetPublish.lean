import AssetPublish.Main
import AssetPublish.Proofs.CommandLine.Output
import AssetPublish.Proofs.Scan.Exactness
import AssetPublish.Proofs.FileSystem.Within
import AssetPublish.Proofs.Run.Mirror
import AssetPublish.Proofs.Run.Source
import AssetPublish.Proofs.Run.FailFast
import AssetPublish.Proofs.Run.Preview
import AssetPublish.Proofs.Run.Completion
import AssetPublish.Proofs.Run.Voices
import AssetPublish.Proofs.Run.Idempotence
import AssetPublish.Proofs.Run.Statistics
import AssetPublish.Proofs.Run.Sequence
import AssetPublish.Proofs.RuleItems
import AssetPublish.Proofs.Run.Reuse
import AssetPublish.Proofs.Scan.Pruning
import AssetPublish.Proofs.Number.Shortest
import AssetPublish.Proofs.Console.Unaltered
import AssetPublish.Proofs.RuleEquality
import AssetPublish.Proofs.Number.Division
import AssetPublish.Proofs.SizeTexts
