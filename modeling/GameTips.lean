import GameTips.Catalog.Folder
import GameTips.Catalog.Store
import GameTips.Config.File
import GameTips.Json.Decode
import GameTips.Proofs.Catalog.FileNames
import GameTips.Proofs.Catalog.FolderLoading
import GameTips.Proofs.Catalog.Loading
import GameTips.Proofs.Catalog.RandomTip
import GameTips.Proofs.Conditions.Agreement
import GameTips.Proofs.Conditions.Groups
import GameTips.Proofs.Conditions.Questions
import GameTips.Proofs.Conditions.Writing
import GameTips.Proofs.Config.Loading
import GameTips.Proofs.Identifier.Defects
import GameTips.Proofs.Identifier.Grammar
import GameTips.Proofs.Rotation.Picks
import GameTips.Proofs.Rotation.Screens
import GameTips.Proofs.Rule.Forms
import GameTips.Proofs.Rule.FullMatch
import GameTips.Proofs.Tip.Display
import GameTips.Proofs.Tip.Milestones
import GameTips.Proofs.Tip.Rereading
import GameTips.Proofs.Tip.Screens
import GameTips.Text.Lossy
